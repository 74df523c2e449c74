import QueryClient.Proofs.Session.RoundTrips
import QueryClient.Proofs.Stream.Cancellation
import Mathlib.Logic.Relation

/-!
# Operations of a connection

Whatever is done with a connection, its session makes nothing but calls: it sends a statement, asks
for a page, cancels a query, loads a file, or changes the queue of cancellations (`calls_run`). The
parts of an operation are operations as well, so a list of operations tells of every order in which
cancellations in the background come between the requests of others.
-/

namespace QueryClient

open Http Relation

/-- A session, and the streams that read from it. -/
structure Connection where
  session : Session
  streams : List RowStream := []

inductive Operation where
  | exec (sql : String)
  | query (sql : String)
  | poll (stream : Nat) (mode : ReadMode)
  | finish (stream : Nat) (ending : Ending)
  /-- Drops a stream where nothing can run in the background. -/
  | forget (stream : Nat)
  | queryRow (sql : String)
  | version
  | streamLoad (sql : String) (rows : List (List String))
  | finalize (batch : Load.Batch)
  | loadFile (directory : Load.Directory) (sql path : String) (options : SortedMap String)
  /-- Runs one of the cancellations that wait. -/
  | cancel (waiting : Nat)
  /-- Runs all of them. -/
  | settle
  -- what `exec` and `close` are made of
  | statement (sql : String)
  | page (uri : String)
  | kill (uri : String)

namespace Operation

def run (c : Connection) : Operation → Connection
  | exec sql => { c with session := (c.session.exec sql).1 }
  | query sql =>
    match c.session.query sql with
    | (s, .ok stream) => ⟨s, c.streams ++ [stream]⟩
    | (s, .error _) => { c with session := s }
  | poll i mode =>
    match c.streams[i]? with
    | some stream =>
      let (stream, s, _) := mode.poll Session.source stream c.session
      ⟨s, c.streams.set i stream⟩
    | none => c
  | finish i ending =>
    match c.streams[i]? with
    | some stream => ⟨ending.finish Session.source stream c.session, c.streams.eraseIdx i⟩
    | none => c
  | forget i => { c with streams := c.streams.eraseIdx i }
  | queryRow sql => { c with session := (c.session.queryRow sql).1 }
  | version => { c with session := c.session.version.1 }
  | streamLoad sql rows => { c with session := (c.session.streamLoad sql rows).1 }
  | finalize batch => { c with session := (c.session.finalize batch).1 }
  | loadFile d sql path options => { c with session := (c.session.loadFile d sql path options).1 }
  | cancel i =>
    match c.session.background[i]? with
    | some uri =>
      let s := { c.session with background := c.session.background.eraseIdx i }
      { c with session := (s.kill uri).1 }
    | none => c
  | settle => { c with session := c.session.runBackground }
  | statement sql => { c with session := (c.session.startQuery sql).1 }
  | page uri => { c with session := (c.session.queryPage uri).1 }
  | kill uri => { c with session := (c.session.kill uri).1 }

def runAll (c : Connection) (operations : List Operation) : Connection :=
  operations.foldl run c

/-- The statement that an operation starts with. -/
def sql? : Operation → Option String
  | exec sql | query sql | queryRow sql | statement sql => some sql
  | version => some "SELECT version()"
  | _ => none

/-- The warehouse that the caller names for an upload. -/
def warehouse? : Operation → Option String
  | loadFile _ _ _ options => lastNamed Session.warehouseHeader options.entries
  | _ => none

end Operation

/-- What a session does at one time, in the course of an operation. -/
inductive Call (op : Operation) (s : Session) : Session → Prop
  | statement {sql : String} (h : op.sql? = some sql) : Call op s (s.startQuery sql).1
  | page (uri : String) : Call op s (s.queryPage uri).1
  | kill (uri : String) : Call op s (s.kill uri).1
  | load (u : Load.Upload) (h : lastNamed Session.warehouseHeader u.headers = op.warehouse?) :
    Call op s (s.load u).1
  | queue (uris : List String) : Call op s { s with background := uris }

/-- What a session does in the course of an operation. -/
abbrev Calls (op : Operation) : Session → Session → Prop :=
  ReflTransGen (Call op)

namespace Session

variable {op : Operation}

section Streams

variable (st : RowStream) (s : Session)

theorem calls_pollItem : Calls op s (RowStream.pollItem source st s).2.1 := by
  have hpage (st : RowStream) (uri : String) :
      Calls op s (RowStream.pollPage source st s uri).2.1 := .single (.page uri)
  have hnext : Calls op s (RowStream.pollNext source st s).2.1 := by
    unfold RowStream.pollNext
    split
    · exact hpage _ _
    · exact .refl
  unfold RowStream.pollItem
  split
  · exact .refl
  · exact hnext
  · exact hnext
  · exact hpage _ _
  all_goals exact .refl

theorem calls_mode_poll (mode : ReadMode) : Calls op s (mode.poll source st s).2.1 :=
  mode.poll_invariant source (P := fun _ w => Calls op s w)
    (fun st w h => h.trans (calls_pollItem st w)) .refl

theorem calls_close : Calls op s (RowStream.close source st s).2.1 := by
  unfold RowStream.close
  cases st.pendingKill? with
  | none => exact .refl
  | some uri => exact .single (.kill uri)

theorem calls_drop : Calls op s (RowStream.drop source st s) := by
  unfold RowStream.drop
  cases st.pendingKill? with
  | none => exact .refl
  | some uri => exact .single (.queue _)

theorem calls_finish (ending : Ending) : Calls op s (ending.finish source st s) := by
  cases ending with
  | close => exact (calls_close st s).trans (calls_drop _ _)
  | drop => exact calls_drop st s

theorem calls_next : Calls op s ((RowStream.rows source).next st s).2.1 :=
  RowStream.next_invariant source (P := fun _ w => Calls op s w)
    (fun st w h => h.trans (calls_pollItem st w)) .refl

end Streams

variable (s : Session)

theorem calls_lastPage (page : QueryPage) : Calls op s (s.lastPage page).1 := by
  fun_induction s.lastPage page with
  | case1 s page hn => exact .refl
  | case2 s page uri hn s' e hp =>
    have hcall : Call op s (s.queryPage uri).1 := .page uri
    rw [hp] at hcall
    exact .single hcall
  | case3 s page uri hn s' page' hp hlt ih =>
    have hcall : Call op s (s.queryPage uri).1 := .page uri
    rw [hp] at hcall
    exact .head hcall ih

theorem calls_runBackground : Calls op s s.runBackground := by
  have hkills (uris : List String) (s : Session) :
      Calls op s (uris.foldl (fun s uri => (s.kill uri).1) s) := by
    induction uris generalizing s with
    | nil => exact .refl
    | cons uri uris ih => exact .head (.kill uri) (ih _)
  exact .head (.queue []) (hkills _ _)

/-! ## Loads -/

/-- No field that the client itself adds to an upload names a warehouse. -/
theorem canonicalName_ne_of_mem_headers {d : Load.Dialect} {f : String × String}
    (h : f ∈ d.headers) : canonicalName f.1 ≠ warehouseHeader := by
  have hnames : ∀ k ∈ d.headers.map Prod.fst, canonicalName k ≠ warehouseHeader := by
    simp only [Load.Dialect.headers, List.map_cons, List.map_nil]
    decide
  exact hnames _ (List.mem_map_of_mem h)

theorem lastNamed_headers (d : Load.Dialect) : lastNamed warehouseHeader d.headers = none :=
  lastNamed_eq_none fun _ => canonicalName_ne_of_mem_headers

theorem lastNamed_addMissing (m : SortedMap String) {l : List (String × String)}
    (h : ∀ f ∈ l, canonicalName f.1 ≠ warehouseHeader) :
    lastNamed warehouseHeader (Load.addMissing m l).entries
      = lastNamed warehouseHeader m.entries := by
  unfold Load.addMissing
  induction l generalizing m with
  | nil => rfl
  | cons f l ih =>
    rw [List.foldl_cons, ih _ fun f hf => h f (.tail _ hf)]
    split
    · rfl
    · exact lastNamed_insertEntry (h f List.mem_cons_self) _ _

theorem lastNamed_fileHeaders {path : Load.Path} {options headers : SortedMap String}
    (h : Load.fileHeaders path options = .ok headers) :
    lastNamed warehouseHeader headers.entries = lastNamed warehouseHeader options.entries := by
  have hformat {m : SortedMap String} (hm : Load.withFormat path options = .ok m) :
      lastNamed warehouseHeader m.entries = lastNamed warehouseHeader options.entries := by
    have hname : canonicalName "format_type" ≠ warehouseHeader := by decide
    unfold Load.withFormat at hm
    split at hm
    · obtain rfl := Except.ok.inj hm
      rfl
    · split at hm
      · obtain rfl := Except.ok.inj hm
        exact lastNamed_insertEntry hname _ _
      · simp at hm
  unfold Load.fileHeaders at h
  obtain ⟨m, hm, h⟩ := exists_of_bind h
  split at h
  · obtain rfl := Except.ok.inj h
    rw [lastNamed_addMissing m fun _ => canonicalName_ne_of_mem_headers, hformat hm]
  · obtain rfl := Except.ok.inj h
    exact hformat hm

theorem calls_finalize (h : op.warehouse? = none) (batch : Load.Batch) :
    Calls op s (s.finalize batch).1 := by
  unfold finalize
  split
  · exact .refl
  · exact .refl
  · next upload hu =>
    have hheaders : upload.headers = batch.dialect.headers := by
      unfold Load.Batch.finish at hu
      split at hu
      · simp at hu
      · split at hu
        · simp at hu
        · simp only [Except.ok.injEq, Option.some.injEq] at hu
          rw [← hu]
    exact .single (.load upload (by rw [hheaders, lastNamed_headers, h]))

theorem calls_streamLoad (h : op.warehouse? = none) (sql : String) (rows : List (List String)) :
    Calls op s (s.streamLoad sql rows).1 := by
  unfold streamLoad
  split
  · exact .refl
  · exact calls_finalize s h _

theorem calls_loadFile (d : Load.Directory) (sql path : String) (options : SortedMap String)
    (h : op.warehouse? = lastNamed warehouseHeader options.entries) :
    Calls op s (s.loadFile d sql path options).1 := by
  unfold loadFile loadFound
  split
  · exact .refl
  · next upload hu =>
    refine .single (.load upload ?_)
    unfold fileUpload at hu
    obtain ⟨headers, hh, hu⟩ := exists_of_bind hu
    split at hu
    · cases hu
    · obtain rfl := Except.ok.inj hu
      rw [h, lastNamed_fileHeaders hh]

/-! ## Statements -/

/-- The session after a statement: it was sent first, and nothing was done if that failed. -/
def AfterStatement (op : Operation) (s : Session) (sql : String) (s' : Session) : Prop :=
  (∃ e, (s.startQuery sql).2 = .error e ∧ s' = (s.startQuery sql).1)
    ∨ ∃ page, (s.startQuery sql).2 = .ok page ∧ Calls op (s.startQuery sql).1 s'

section Statements

variable (sql : String)

theorem afterStatement_startQuery : AfterStatement op s sql (s.startQuery sql).1 := by
  cases h : (s.startQuery sql).2 with
  | error e => exact .inl ⟨e, h, rfl⟩
  | ok page => exact .inr ⟨page, h, .refl⟩

theorem afterStatement_exec : AfterStatement op s sql (s.exec sql).1 := by
  unfold exec
  split
  · next s' e h => exact .inl ⟨e, by rw [h], by rw [h]⟩
  · next s' first h =>
    refine .inr ⟨first, by rw [h], ?_⟩
    rw [h]
    exact calls_lastPage s' first

theorem afterStatement_queryRow : AfterStatement op s sql (s.queryRow sql).1 := by
  have hstart : (s.query sql).1 = (s.startQuery sql).1 := rfl
  unfold queryRow
  split
  · next s' e hq =>
    rw [hq] at hstart
    exact hstart ▸ afterStatement_startQuery s sql
  · next s' stream hq =>
    rw [hq] at hstart
    cases h : (s.startQuery sql).2 with
    | error e => simp [query, h, Except.bind] at hq
    | ok first =>
      refine .inr ⟨first, h, ?_⟩
      rw [← hstart]
      have hread := @calls_next op stream s'
      split <;> next hn =>
        rw [hn] at hread
        first
          | exact hread.trans (calls_drop _ _)
          | exact hread.trans (calls_close _ _)

theorem session_run_query (c : Connection) :
    ((Operation.query sql).run c).session = (c.session.startQuery sql).1 := by
  have hstart : (c.session.query sql).1 = (c.session.startQuery sql).1 := rfl
  simp only [Operation.run]
  split <;> next hq => rw [hq] at hstart; exact hstart

theorem afterStatement_run {sql : String} (h : op.sql? = some sql) (c : Connection) :
    AfterStatement op c.session sql (op.run c).session := by
  cases op with
  | exec t =>
    obtain rfl := Option.some.inj h
    exact afterStatement_exec _ _
  | query t =>
    obtain rfl := Option.some.inj h
    rw [session_run_query]
    exact afterStatement_startQuery _ _
  | queryRow t =>
    obtain rfl := Option.some.inj h
    exact afterStatement_queryRow _ _
  | version =>
    obtain rfl := Option.some.inj h
    exact afterStatement_queryRow _ _
  | statement t =>
    obtain rfl := Option.some.inj h
    exact afterStatement_startQuery _ _
  | _ => cases h

end Statements

theorem calls_run (op : Operation) (c : Connection) :
    Calls op c.session (op.run c).session := by
  cases hsql : op.sql? with
  | some sql =>
    refine .head (.statement hsql) ?_
    rcases afterStatement_run hsql c with ⟨e, -, h⟩ | ⟨page, -, h⟩
    · rw [h]
    · exact h
  | none =>
    cases op with
    | poll i mode =>
      simp only [Operation.run]
      split
      · exact calls_mode_poll _ _ mode
      · exact .refl
    | finish i ending =>
      simp only [Operation.run]
      split
      · exact calls_finish _ _ ending
      · exact .refl
    | cancel i =>
      simp only [Operation.run]
      split
      · next uri _ => exact .head (.queue _) (.single (.kill uri))
      · exact .refl
    | forget i => exact .refl
    | settle => exact calls_runBackground _
    | streamLoad sql rows => exact calls_streamLoad _ rfl sql rows
    | finalize batch => exact calls_finalize _ rfl batch
    | loadFile d sql path options => exact calls_loadFile _ d sql path options rfl
    | page uri => exact .single (.page uri)
    | kill uri => exact .single (.kill uri)
    | _ => cases hsql

end Session

end QueryClient
