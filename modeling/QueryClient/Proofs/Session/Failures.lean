import QueryClient.Proofs.Session.Execution
import QueryClient.Proofs.Session.OwnErrors
import QueryClient.Proofs.Session.Verdicts

/-!
# Where errors come from

An operation asks for things in turn and stops at the first that fails, and then it fails with the same
error. When all of them are granted, it fails at most with an error of the client itself
(`Session.comes_run`). So the code of an error tells a rejection, and a second try is for a broken
connection or a timeout (`Operation.failures_told_apart`).
-/

namespace QueryClient

open Http Relation

/-! ## What an error tells -/

/-- What was asked for and failed, and the session that asked. -/
structure Stop where
  session : Session
  ask : Ask
  error : Error

namespace Stop

/-- Whether the service rejected what was asked for. -/
def Rejected (stop : Stop) (code : UInt32) (message : String) : Prop :=
  ∃ r answer, stop.ask.request stop.session = .ok r
    ∧ (stop.session.network.send r).2 = .ok answer ∧ stop.ask.Rejects answer code message

/-- Whether the service could not be reached, or was not heard of in time. -/
def Broken (stop : Stop) : Prop :=
  ∃ r failure, stop.ask.request stop.session = .ok r
    ∧ (stop.session.network.send r).2 = .error failure
    ∧ (failure.kind = .connectFailed ∨ failure.kind = .timeout)

/-- Whether the error is the one that comes of asking. -/
def IsGenuine (stop : Stop) : Prop :=
  (stop.ask.run stop.session).2 = some stop.error

variable {stop : Stop}

theorem IsGenuine.code?_eq_some_iff (h : stop.IsGenuine) {code : UInt32} :
    stop.error.code? = some code ↔ ∃ message, stop.Rejected code message := by
  constructor
  · intro hcode
    cases hr : stop.ask.request stop.session with
    | error e =>
      rw [IsGenuine, Ask.run_of_request_error hr] at h
      obtain rfl := Option.some.inj h
      simp [(FailsByItself.ask _ _ _ hr).1] at hcode
    | ok r =>
      have hv := (Ask.verdict_iff hr _).2 h
      generalize hx : (stop.session.network.send r).2 = x at hv
      generalize stop.error = e at hv hcode
      cases hv with
      | rejected hrej =>
        obtain rfl := Option.some.inj hcode
        exact ⟨_, r, _, hr, hx, hrej⟩
      | _ => cases hcode
  · rintro ⟨message, r, answer, hr, hx, hrej⟩
    rw [IsGenuine, Ask.run_of_request hr, hx, hrej.judge_eq] at h
    rw [← Option.some.inj h]
    rfl

theorem IsGenuine.isRetryable_iff (h : stop.IsGenuine) :
    stop.error.isRetryable = true ↔ stop.Broken := by
  constructor
  · intro hretry
    cases hr : stop.ask.request stop.session with
    | error e =>
      rw [IsGenuine, Ask.run_of_request_error hr] at h
      obtain rfl := Option.some.inj h
      simp [(FailsByItself.ask _ _ _ hr).2] at hretry
    | ok r =>
      have hv := (Ask.verdict_iff hr _).2 h
      generalize hx : (stop.session.network.send r).2 = x at hv
      generalize stop.error = e at hv hretry
      cases hv with
      | unconnected hk => exact ⟨r, _, hr, hx, .inl hk⟩
      | expired hk => exact ⟨r, _, hr, hx, .inr hk⟩
      | _ => cases hretry
  · rintro ⟨r, failure, hr, hx, hk⟩
    rw [IsGenuine, Ask.run_of_request hr, hx] at h
    rw [← Option.some.inj h]
    rcases hk with hk | hk <;> simp [Error.isRetryable, TransportFault.kind, hk]

end Stop

/-! ## Asking in turn -/

namespace Session

/-- Asks for one thing after the other, up to the first that fails. -/
def pursue (s : Session) : List Ask → Session × Option Stop
  | [] => (s, none)
  | a :: asks =>
    match a.run s with
    | (s', some e) => (s', some ⟨s, a, e⟩)
    | (s', none) => s'.pursue asks

section Pursue

variable {s s' s₁ : Session} {a : Ask} {asks more : List Ask}

theorem pursue_cons_of_none (h : (a.run s).2 = none) :
    s.pursue (a :: asks) = (a.run s).1.pursue asks := by
  rw [pursue]
  split <;> next hr => simp_all

theorem pursue_cons_of_some {e : Error} (h : (a.run s).2 = some e) :
    s.pursue (a :: asks) = ((a.run s).1, some ⟨s, a, e⟩) := by
  rw [pursue]
  split <;> next hr => simp_all

theorem pursue_append (h : (s.pursue asks).2 = none) :
    s.pursue (asks ++ more) = (s.pursue asks).1.pursue more := by
  induction asks generalizing s with
  | nil => rfl
  | cons a asks ih =>
    cases ha : (a.run s).2 with
    | none =>
      rw [pursue_cons_of_none ha] at h
      rw [List.cons_append, pursue_cons_of_none ha, pursue_cons_of_none ha, ih h]
    | some e => simp [pursue_cons_of_some ha] at h

theorem isGenuine_of_pursue {stop : Stop} (h : (s.pursue asks).2 = some stop) : stop.IsGenuine := by
  induction asks generalizing s with
  | nil => cases h
  | cons a asks ih =>
    cases ha : (a.run s).2 with
    | none =>
      rw [pursue_cons_of_none ha] at h
      exact ih h
    | some e =>
      rw [pursue_cons_of_some ha] at h
      obtain rfl := Option.some.inj h
      exact ha

end Pursue

/-- Whether one session comes to another one by asking for things in turn, with the error of the one
that failed; if none did, with at most an error of the client itself. -/
structure ComesBy (asks : List Ask) (s s' : Session) (e : Option Error) : Prop where
  session : (s.pursue asks).1 = s'
  stopped : ∀ stop, (s.pursue asks).2 = some stop → e = some stop.error
  own : (s.pursue asks).2 = none → ∀ x, e = some x → x.IsOwn

def Comes (s s' : Session) (e : Option Error) : Prop :=
  ∃ asks, ComesBy asks s s' e

namespace Comes

variable {s s₁ s' : Session} {e x : Option Error}

theorem rest (s : Session) (h : ∀ x, e = some x → x.IsOwn) : Comes s s e :=
  ⟨[], rfl, by simp [pursue], fun _ => h⟩

theorem ask (s : Session) (a : Ask) : Comes s (a.run s).1 (a.run s).2 := by
  refine ⟨[a], ?_⟩
  cases h : (a.run s).2 with
  | none =>
    have hp : s.pursue [a] = ((a.run s).1, none) := pursue_cons_of_none h
    exact ⟨by rw [hp], by simp [hp], by simp⟩
  | some e =>
    have hp : s.pursue [a] = ((a.run s).1, some ⟨s, a, e⟩) := pursue_cons_of_some h
    exact ⟨by rw [hp], by simp [hp], by simp [hp]⟩

theorem trans (h : Comes s s₁ none) (h' : Comes s₁ s' e) : Comes s s' e := by
  obtain ⟨asks, h⟩ := h
  obtain ⟨more, h'⟩ := h'
  have hnone : (s.pursue asks).2 = none := by
    cases hp : (s.pursue asks).2 with
    | none => rfl
    | some stop => cases h.stopped stop hp
  refine ⟨asks ++ more, ?_, ?_, ?_⟩ <;> rw [pursue_append hnone, h.session]
  · exact h'.session
  · exact h'.stopped
  · exact h'.own

theorem startQuery (s : Session) (sql : String) :
    Comes s (s.startQuery sql).1 (failure? (s.startQuery sql).2) := by
  have h := ask s (.statement sql)
  simpa only [Ask.run] using h

theorem queryPage (s : Session) (uri : String) :
    Comes s (s.queryPage uri).1 (failure? (s.queryPage uri).2) := by
  have h := ask s (.page uri)
  simpa only [Ask.run] using h

theorem kill (s : Session) (uri : String) :
    Comes s (s.kill uri).1 (failure? (s.kill uri).2) := by
  have h := ask s (.kill uri)
  simpa only [Ask.run] using h

theorem load (s : Session) (u : Load.Upload) :
    Comes s (s.load u).1 (failure? (s.load u).2) := by
  have h := ask s (.load u)
  simpa only [Ask.run] using h

/-- What comes afterwards adds at most an error of the client itself. -/
theorem andThen (h : Comes s s' e) (hkeep : ∀ y, e = some y → x = some y)
    (hown : e = none → ∀ y, x = some y → y.IsOwn) : Comes s s' x := by
  obtain ⟨asks, h⟩ := h
  refine ⟨asks, h.session, fun stop hs => hkeep _ (h.stopped stop hs), fun hs => ?_⟩
  cases e with
  | none => exact hown rfl
  | some y =>
    obtain rfl := hkeep y rfl
    exact h.own hs

/-- A result that is looked at afterwards adds at most an error of the client itself. -/
theorem bind {α β : Type} {r : Result α} {f : α → Result β} (h : Comes s s' (failure? r))
    (hf : ∀ a, r = .ok a → FailsByItself (f a)) : Comes s s' (failure? (r.bind f)) := by
  cases r with
  | error e => exact h
  | ok a => exact h.andThen (by simp) fun _ _ hy => (hf a rfl).failure? hy

end Comes

/-! ## Streams -/

end Session

/-- The error of an event that has one. -/
def StreamEvent.failure? {α : Type} : StreamEvent α → Option Error
  | .failure e => some e
  | _ => none

@[simp] theorem StreamEvent.failure?_ofResult {α : Type} (r : Result α) :
    (StreamEvent.ofResult r).failure? = QueryClient.failure? r := by
  cases r <;> rfl

@[simp] theorem StreamEvent.failure?_map {α β : Type} (f : α → β) (e : StreamEvent α) :
    (e.map f).failure? = e.failure? := by
  cases e <;> rfl

namespace Session

section Streams

variable (t : RowStream) (s : Session)

theorem comes_pollItem :
    Comes s (RowStream.pollItem source t s).2.1 (RowStream.pollItem source t s).2.2.failure? := by
  have hpage (t : RowStream) (uri : String) :
      Comes s (RowStream.pollPage source t s uri).2.1
        (RowStream.pollPage source t s uri).2.2.failure? := by
    have hask := Comes.queryPage s uri
    simp only [RowStream.pollPage, source, StreamEvent.failure?_ofResult]
    rcases hq : s.queryPage uri with ⟨s', e | page⟩ <;> rw [hq] at hask
    · exact hask
    · refine hask.andThen (by simp) fun _ y hy => ?_
      exact (FailsByItself.receive (error_of_receivePage hq)).failure? hy
  have hnext : Comes s (RowStream.pollNext source t s).2.1
      (RowStream.pollNext source t s).2.2.failure? := by
    unfold RowStream.pollNext
    split
    · next uri _ =>
      rw [show source.fetch s uri = s from rfl]
      exact hpage _ _
    · exact .rest s (by simp [StreamEvent.failure?])
  unfold RowStream.pollItem
  split
  · simp only [StreamEvent.failure?_ofResult]
    exact .rest s fun y hy => (FailsByItself.deliver _ _ _).failure? hy
  · exact hnext
  · exact hnext
  · exact hpage _ _
  all_goals exact .rest s (by simp [StreamEvent.failure?])

theorem comes_poll :
    Comes s (RowStream.poll source t s).2.1 (RowStream.poll source t s).2.2.failure? := by
  fun_induction RowStream.poll source t s with
  | case1 t s t' s' c hp hlt ih =>
    have h := comes_pollItem t s
    rw [hp] at h
    exact h.trans ih
  | case2 t s t' s' r hp | case3 t s t' s' e hp | case4 t s t' s' hp | case5 t s t' s' hp =>
    have h := comes_pollItem t s
    rw [hp] at h
    exact h

theorem comes_mode_poll (mode : ReadMode) :
    Comes s (mode.poll source t s).2.1 (mode.poll source t s).2.2.failure? := by
  cases mode with
  | rows =>
    simp only [ReadMode.poll, StreamEvent.failure?_map]
    exact comes_poll t s
  | items => exact comes_pollItem t s

theorem comes_next :
    Comes s ((RowStream.rows source).next t s).2.1
      ((RowStream.rows source).next t s).2.2.failure? := by
  fun_induction (RowStream.rows source).next t s with
  | case1 t s t' s' hp hn ih =>
    have h := comes_poll t s
    rw [show RowStream.poll source t s = (t', s', .pending) from hp] at h
    exact h.trans ih
  | case2 t s t' s' a hp | case3 t s t' s' e hp | case4 t s t' s' hp =>
    have h := comes_poll t s
    rw [show RowStream.poll source t s = _ from hp] at h
    exact h

theorem comes_close :
    Comes s (RowStream.close source t s).2.1 (failure? (RowStream.close source t s).2.2) := by
  unfold RowStream.close
  cases t.pendingKill? with
  | none => exact .rest s (by simp)
  | some uri => exact .kill s uri

end Streams

end Session

/-! ## What nobody waits for -/

/-- Whether an operation may cancel a query without telling how that went. -/
def Operation.cancelsAside : Operation → Bool
  | queryRow _ | version | cancel _ | settle => true
  | _ => false

namespace Session

/-- Whether a session becomes another one by something whose outcome nobody is told. -/
inductive Aside (op : Operation) (s : Session) : Session → Prop
  | kill (h : op.cancelsAside = true) (uri : String) : Aside op s (s.kill uri).1
  | queue (uris : List String) : Aside op s { s with background := uris }

abbrev Asides (op : Operation) : Session → Session → Prop :=
  ReflTransGen (Aside op)

section Asides

variable {op : Operation} (t : RowStream) (s : Session)

theorem asides_drop : Asides op s (RowStream.drop source t s) := by
  unfold RowStream.drop
  cases t.pendingKill? with
  | none => exact .refl
  | some uri => exact .single (.queue _)

theorem asides_abandon (h : op.cancelsAside = true) :
    Asides op s (RowStream.abandon source t s) := by
  unfold RowStream.abandon RowStream.close
  cases t.pendingKill? with
  | none => exact .refl
  | some uri => exact .single (.kill h uri)

theorem asides_runBackground (h : op.cancelsAside = true) : Asides op s s.runBackground := by
  have hkills (uris : List String) (s : Session) :
      Asides op s (uris.foldl (fun s uri => (s.kill uri).1) s) := by
    induction uris generalizing s with
    | nil => exact .refl
    | cons uri uris ih => exact .head (.kill h uri) (ih _)
  exact .head (.queue []) (hkills _ _)

end Asides

/-! ## Operations -/

section Operations

variable (s : Session) (sql : String)

theorem comes_lastPage (page : QueryPage) :
    Comes s (s.lastPage page).1 (failure? (s.lastPage page).2) := by
  fun_induction s.lastPage page with
  | case1 s page hn => exact .rest s (by simp)
  | case2 s page uri hn s' e hp =>
    have h := Comes.queryPage s uri
    rw [hp] at h
    exact h
  | case3 s page uri hn s' page' hp hlt ih =>
    have h := Comes.queryPage s uri
    rw [hp] at h
    exact h.trans ih

theorem comes_exec : Comes s (s.exec sql).1 (failure? (s.exec sql).2) := by
  have h := Comes.startQuery s sql
  unfold exec
  rcases hq : s.startQuery sql with ⟨s', e | first⟩ <;> rw [hq] at h
  · exact h
  · simp only [failure?_map]
    exact h.trans (comes_lastPage s' first)

theorem comes_query : Comes s (s.query sql).1 (failure? (s.query sql).2) := by
  have h := Comes.startQuery s sql
  unfold query
  exact h.bind fun first hfirst =>
    FailsByItself.start (error_of_receivePage (Prod.ext rfl hfirst))

theorem comes_queryRow {op : Operation} (hop : op.cancelsAside = true) :
    ∃ s₁, Comes s s₁ (failure? (s.queryRow sql).2) ∧ Asides op s₁ (s.queryRow sql).1 := by
  have h := comes_query s sql
  unfold queryRow
  rcases hq : s.query sql with ⟨s', e | t⟩ <;> rw [hq] at h
  · exact ⟨s', h, .refl⟩
  · have hread := h.trans (comes_next t s')
    rcases hn : (RowStream.rows source).next t s' with ⟨t', s'', event⟩
    rw [hn] at hread
    cases event with
    | failure e =>
      simp only [hn]
      exact ⟨s'', hread, asides_drop t' s''⟩
    | item row =>
      simp only [hn]
      exact ⟨s'', hread, asides_abandon t' s'' hop⟩
    | pending | «over» =>
      simp only [hn]
      refine ⟨s'', hread.andThen (by simp [StreamEvent.failure?]) fun _ y hy => ?_,
        asides_abandon t' s'' hop⟩
      obtain rfl := Option.some.inj hy
      exact ⟨rfl, rfl⟩

theorem comes_version {op : Operation} (hop : op.cancelsAside = true) :
    ∃ s₁, Comes s s₁ (failure? s.version.2) ∧ Asides op s₁ s.version.1 := by
  obtain ⟨s₁, h, ha⟩ := comes_queryRow s "SELECT version()" hop
  exact ⟨s₁, h.bind fun row _ => .getString row _, ha⟩

theorem comes_finalize (batch : Load.Batch) :
    Comes s (s.finalize batch).1 (failure? (s.finalize batch).2) := by
  unfold finalize
  split
  · next fault _ =>
    refine .rest s fun y hy => ?_
    obtain rfl := Option.some.inj hy
    exact fault.isOwn_toError
  · exact .rest s (by simp)
  · next upload _ =>
    have h := Comes.load s upload
    rcases hl : s.load upload with ⟨s', receipt⟩
    rw [hl] at h
    exact h.bind fun receipt _ => .acknowledged _ receipt

theorem comes_streamLoad (rows : List (List String)) :
    Comes s (s.streamLoad sql rows).1 (failure? (s.streamLoad sql rows).2) := by
  unfold streamLoad
  split
  · next fault _ =>
    refine .rest s fun y hy => ?_
    obtain rfl := Option.some.inj hy
    exact fault.isOwn_toError
  · exact comes_finalize s _

theorem comes_loadFile (d : Load.Directory) (path : String) (options : SortedMap String) :
    Comes s (s.loadFile d sql path options).1 (failure? (s.loadFile d sql path options).2) := by
  unfold loadFile loadFound
  split
  · next e he =>
    refine .rest s fun y hy => ?_
    obtain rfl := Option.some.inj hy
    exact FailsByItself.fileUpload _ _ _ _ _ he
  · next upload _ =>
    have h := Comes.load s upload
    rcases hl : s.load upload with ⟨s', receipt⟩
    rw [hl] at h
    simp only [failure?_map]
    exact h

end Operations

end Session

namespace Operation

/-- The error that an operation answers. What becomes of a cancellation in the background is told to
nobody. -/
def error? (c : Connection) : Operation → Option Error
  | exec sql => failure? (c.session.exec sql).2
  | query sql => failure? (c.session.query sql).2
  | poll i mode =>
    c.streams[i]?.bind fun stream => (mode.poll Session.source stream c.session).2.2.failure?
  | finish i .close =>
    c.streams[i]?.bind fun stream => failure? (RowStream.close Session.source stream c.session).2.2
  | finish _ .drop | forget _ | cancel _ | settle => none
  | queryRow sql => failure? (c.session.queryRow sql).2
  | version => failure? c.session.version.2
  | streamLoad sql rows => failure? (c.session.streamLoad sql rows).2
  | finalize batch => failure? (c.session.finalize batch).2
  | loadFile d sql path options => failure? (c.session.loadFile d sql path options).2
  | statement sql => failure? (c.session.startQuery sql).2
  | page uri => failure? (c.session.queryPage uri).2
  | kill uri => failure? (c.session.kill uri).2

open Session

theorem comes_run (c : Connection) (op : Operation) :
    ∃ s₁, Comes c.session s₁ (op.error? c) ∧ Asides op s₁ (op.run c).session := by
  have hnone : ∀ x, (none : Option Error) = some x → x.IsOwn := by simp
  cases op with
  | exec sql => exact ⟨_, comes_exec _ sql, .refl⟩
  | query sql =>
    refine ⟨_, comes_query _ sql, ?_⟩
    rw [session_run_query]
    exact .refl
  | poll i mode =>
    simp only [run, error?]
    cases c.streams[i]? with
    | none => exact ⟨_, .rest _ hnone, .refl⟩
    | some t => exact ⟨_, comes_mode_poll t _ mode, .refl⟩
  | finish i ending =>
    cases ending with
    | close =>
      simp only [run, error?]
      cases c.streams[i]? with
      | none => exact ⟨_, .rest _ hnone, .refl⟩
      | some t => exact ⟨_, comes_close t _, asides_drop _ _⟩
    | drop =>
      simp only [run, error?]
      cases c.streams[i]? with
      | none => exact ⟨_, .rest _ hnone, .refl⟩
      | some t => exact ⟨_, .rest _ hnone, asides_drop t _⟩
  | forget i => exact ⟨_, .rest _ hnone, .refl⟩
  | queryRow sql => exact comes_queryRow _ sql rfl
  | version => exact comes_version _ rfl
  | streamLoad sql rows => exact ⟨_, comes_streamLoad _ sql rows, .refl⟩
  | finalize batch => exact ⟨_, comes_finalize _ batch, .refl⟩
  | loadFile d sql path options => exact ⟨_, comes_loadFile _ sql d path options, .refl⟩
  | cancel i =>
    refine ⟨_, .rest _ hnone, ?_⟩
    simp only [run]
    split
    · next uri _ => exact .head (.queue _) (.single (.kill rfl uri))
    · exact .refl
  | settle => exact ⟨_, .rest _ hnone, asides_runBackground _ rfl⟩
  | statement sql => exact ⟨_, .startQuery _ sql, .refl⟩
  | page uri => exact ⟨_, .queryPage _ uri, .refl⟩
  | kill uri => exact ⟨_, .kill _ uri, .refl⟩

/-- Failures of the connection and rejections by the service are told apart. A request that cannot be
made changes nothing and fails with an error of the client itself; any other comes to the verdict on
what the network made of it, and to no other. An operation asks for things in turn. If one of them
fails, the operation fails with the same error, which has a code if and only if the service rejected
what was asked for, and is worth another try if and only if the connection failed or the time was up.
Otherwise it has at most an error of the client itself. -/
theorem failures_told_apart :
    (∀ (s : Session) (a : Ask) (e : Error), a.request s = .error e →
      a.run s = (s, some e) ∧ e.IsOwn)
    ∧ (∀ (s : Session) (a : Ask) (r : Request), a.request s = .ok r →
      ∀ e, (a.run s).2 = e ↔ a.Verdict (s.network.send r).2 e)
    ∧ ∀ (c : Connection) (op : Operation), ∃ asks,
      Asides op (c.session.pursue asks).1 (op.run c).session
      ∧ match (c.session.pursue asks).2 with
        | some stop =>
          op.error? c = some stop.error
          ∧ (∀ code, stop.error.code? = some code ↔ ∃ message, stop.Rejected code message)
          ∧ (stop.error.isRetryable = true ↔ stop.Broken)
        | none => ∀ e, op.error? c = some e → e.code? = none ∧ e.isRetryable = false := by
  refine ⟨fun s a e h => ⟨Ask.run_of_request_error h, FailsByItself.ask s a e h⟩,
    fun s a r h e => (Ask.verdict_iff h e).symm, fun c op => ?_⟩
  obtain ⟨s₁, ⟨asks, hc⟩, ha⟩ := comes_run c op
  refine ⟨asks, hc.session ▸ ha, ?_⟩
  split
  · next stop hs =>
    have hg := isGenuine_of_pursue hs
    exact ⟨hc.stopped stop hs, fun code => hg.code?_eq_some_iff, hg.isRetryable_iff⟩
  · next hs => exact hc.own hs

/-- A service that is busy rejects a statement in its own words, and is then not heard of. -/
theorem failures_told_apart_busy :
    let c : Config := { transport := .http, host := "[::1]", port := some 8000 }
    let busy : Outcome := .answer ⟨503, some (Text.Utf8.encode " try later ".toList)⟩
    let network : Network := { host := "[::1]", port := 8000, script := [busy, .silence] }
    ∃ s, start c "client" network = .ok s
      ∧ (∃ stop : Stop, stop.error = .remote 503 "try later" ∧ ∃ message, stop.Rejected 503 message)
      ∧ ∃ stop : Stop, stop.error = .transport (.exchange .timedOut) ∧ stop.Broken := by
  intro c busy network
  have heval : ((start c "client" network).toOption.map fun s =>
      let later := (exec "SELECT 1").run ⟨s, []⟩
      ((exec "SELECT 1").error? ⟨s, []⟩, (exec "SELECT 1").error? later))
      = some (some (.remote 503 "try later"), some (.transport (.exchange .timedOut))) := by
    decide +kernel
  cases h : start c "client" network with
  | error e => rw [h] at heval; cases heval
  | ok s =>
    rw [h] at heval
    simp only [Except.toOption, Option.map_some, Option.some.injEq, Prod.mk.injEq] at heval
    obtain ⟨hbusy, hsilent⟩ := heval
    refine ⟨s, rfl, ?_, ?_⟩
    · obtain ⟨asks, -, hends⟩ := failures_told_apart.2.2 ⟨s, []⟩ (exec "SELECT 1")
      split at hends
      · next stop _ =>
        have hstop : stop.error = .remote 503 "try later" :=
          Option.some.inj (hends.1.symm.trans hbusy)
        exact ⟨stop, hstop, (hends.2.1 503).1 (by rw [hstop]; rfl)⟩
      · cases (hends _ hbusy).1
    · obtain ⟨asks, -, hends⟩ := failures_told_apart.2.2 ((exec "SELECT 1").run ⟨s, []⟩)
        (exec "SELECT 1")
      split at hends
      · next stop _ =>
        have hstop : stop.error = .transport (.exchange .timedOut) :=
          Option.some.inj (hends.1.symm.trans hsilent)
        exact ⟨stop, hstop, hends.2.2.1 (by rw [hstop]; rfl)⟩
      · cases (hends _ hsilent).2

end Operation

end QueryClient
