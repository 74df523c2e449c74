import QueryClient.Proofs.Stream.Reference
import QueryClient.Proofs.Stream.Timing

/-!
# What a stream hands out

At any time a stream and its script have a reading ahead of them (`RowStream.ahead`). A poll takes
the next part of it off: a row is its first row, a failure is all of it, and the counters of a page
or a wait leave it as it is (`Reading.Emits`). At the start the reading ahead is that of the query
(`ahead_of_start`), so a stream hands out just what the reference says.
-/

namespace QueryClient

/-! ## Fields -/

namespace RowStream

open Reading

theorem decodeFields_eq (n : Nat) (columns : List Column) (raw : RawRow) :
    decodeFields n columns raw =
      ((columns.zip raw).zipIdx n).mapM fun ((c, field), i) => Value.decode c.type field i := by
  induction columns generalizing n raw with
  | nil => rfl
  | cons c columns ih =>
    cases raw with
    | nil => rfl
    | cons field raw =>
      simp only [decodeFields, ih, List.zip_cons_cons, List.zipIdx_cons, List.mapM_cons]

theorem decode_eq_readRow (s : RowStream) (raw : RawRow) :
    s.decode raw = readRow s.columns s.delivered raw := by
  unfold decode readRow readFields
  rw [decodeFields_eq]
  by_cases h : raw.length = s.columns.length <;> simp [h]

end RowStream

/-! ## The reading ahead -/

namespace Feed

open Reading

/-- What the fetches of a script come to. -/
def pages (f : Feed) : List (Result QueryPage) :=
  f.script.map (·.page)

/-- The pages that come when the one behind a link is on its way. -/
def arriving (f : Feed) (uri : String) : List (Result QueryPage) :=
  match f.current with
  | none => [.error f.exhausted]
  | some p => linked f.exhausted (some uri) (p.page :: f.pages)

theorem arriving_fetch (f : Feed) (uri : String) :
    (f.fetch uri).arriving uri = linked f.exhausted (some uri) f.pages := by
  cases hs : f.script <;> simp [fetch, call, arriving, pages, hs, linked]

theorem arriving_of_pending {f f' : Feed} (h : f.poll = (f', .pending)) (uri : String) :
    f'.arriving uri = f.arriving uri := by
  obtain ⟨n, page, hc, rfl⟩ := poll_of_pending h
  simp [arriving, hc, pages]

theorem arriving_of_ready {f f' : Feed} {page : Result QueryPage}
    (h : f.poll = (f', .ready page)) (uri : String) :
    f.arriving uri = linked f'.exhausted (some uri) (page :: f'.pages) := by
  rcases poll_of_ready h with ⟨hc, rfl, rfl⟩ | ⟨hc, rfl⟩
  · simp [arriving, hc, linked]
  · simp [arriving, hc, pages]

end Feed

namespace Reading

/-- What is told of a reading, and what is left of it. -/
def Emits (a : Reading) (e : StreamEvent StreamItem) (b : Reading) : Prop :=
  match e with
  | .pending | .item (.stats _) => a = b
  | .item (.row r) => a = b.cons r
  | .failure x => a = failed x ∧ b = {}
  | .over => a = {} ∧ b = {}

end Reading

namespace RowStream

open Reading

/-- What is left to read of a stream and its script. -/
def ahead (s : RowStream) (f : Feed) : Reading :=
  match s.state with
  | .idle | .hasRows =>
    readOn s.columns s.delivered s.buffer (linked f.exhausted s.nextUri f.pages)
  | .fetching uri => readOn s.columns s.delivered s.buffer (f.arriving uri)
  | .exhausted | .failed | .closed => {}

theorem ahead_of_terminated {s : RowStream} (h : s.state.isTerminated = true) (f : Feed) :
    s.ahead f = {} := by
  cases hs : s.state <;> simp_all [ahead, StreamState.isTerminated]

theorem ahead_settle (s : RowStream) (f : Feed) :
    s.settle.ahead f
      = readOn s.columns s.delivered s.buffer (linked f.exhausted s.nextUri f.pages) := by
  by_cases hb : s.buffer = []
  · cases hn : s.nextUri with
    | none => simp [ahead, settle, hb, hn, linked, readOn_nil]
    | some uri => simp [ahead, settle, hb, hn]
  · simp [ahead, settle, hb]

section Step

variable {s : RowStream}

theorem emits_deliver (hs : s.state = .hasRows) {raw : RawRow} {rest : List RawRow}
    (hb : s.buffer = raw :: rest) (f : Feed) :
    (s.ahead f).Emits (.ofResult (s.deliver raw rest).2) ((s.deliver raw rest).1.ahead f) := by
  have hahead : s.ahead f = readOn s.columns s.delivered (raw :: rest)
      (linked f.exhausted s.nextUri f.pages) := by
    simp [ahead, hs, hb]
  have hdecode : RowStream.decode { s with buffer := rest } raw
      = readRow s.columns s.delivered raw := decode_eq_readRow _ raw
  rw [hahead, readOn_row]
  simp only [deliver, hdecode]
  cases readRow s.columns s.delivered raw with
  | error e => exact ⟨rfl, ahead_of_terminated rfl f⟩
  | ok row =>
    refine congrArg (Reading.cons row) ?_
    by_cases hr : rest = []
    · simp [hr, ahead_settle]
    · simp [hr, ahead, hs]

theorem emits_receive (hb : s.buffer = []) (page : Result QueryPage) (uri : String) (f : Feed) :
    (readOn s.columns s.delivered s.buffer
        (linked f.exhausted (some uri) (page :: f.pages))).Emits
      (.ofResult (s.receive page).2) ((s.receive page).1.ahead f) := by
  rw [hb]
  cases page with
  | error e => exact ⟨readOn_error _ _ e _, ahead_of_terminated rfl f⟩
  | ok page =>
    simp only [linked, readOn_page, receive, absorb]
    cases page.error with
    | some rejection => exact ⟨rfl, ahead_of_terminated rfl f⟩
    | none =>
      cases columnsAfter s.columns page.schema with
      | error e => exact ⟨rfl, ahead_of_terminated rfl f⟩
      | ok columns => simp [StreamEvent.ofResult, Emits, ahead_settle, hb]

theorem emits_pollPage {uri : String} (hb : s.buffer = []) (hs : s.state = .fetching uri)
    (f : Feed) :
    (s.ahead f).Emits (pollPage Feed.source s f uri).2.2
      ((pollPage Feed.source s f uri).1.ahead (pollPage Feed.source s f uri).2.1) := by
  have hahead (f : Feed) : s.ahead f = readOn s.columns s.delivered s.buffer (f.arriving uri) := by
    simp [ahead, hs]
  rcases hp : f.poll with ⟨f', _ | page⟩
  · rw [pollPage_of_pending hp, hahead, hahead, Feed.arriving_of_pending hp]
    rfl
  · rw [pollPage_of_ready hp, hahead, Feed.arriving_of_ready hp]
    exact emits_receive hb page uri f'

theorem emits_pollNext (hb : s.buffer = []) (hs : s.state = .idle) (f : Feed) :
    (s.ahead f).Emits (pollNext Feed.source s f).2.2
      ((pollNext Feed.source s f).1.ahead (pollNext Feed.source s f).2.1) := by
  cases hn : s.nextUri with
  | none =>
    have hover : pollNext Feed.source s f = ({ s with state := .exhausted }, f, .over) := by
      simp [pollNext, hn]
    rw [hover]
    exact ⟨by simp [ahead, hs, hb, hn, linked, readOn_nil], ahead_of_terminated rfl f⟩
  | some uri =>
    have hahead : s.ahead f = (s.asking uri).ahead (f.fetch uri) := by
      simp [ahead, asking, hs, hn, Feed.arriving_fetch]
    rw [pollNext_of_link hn, hahead]
    exact emits_pollPage (s := s.asking uri) hb rfl _

/-- A step tells the next part of what is ahead and leaves the rest. -/
theorem emits_pollItem (hc : s.Coherent) (f : Feed) :
    (s.ahead f).Emits (pollItem Feed.source s f).2.2
      ((pollItem Feed.source s f).1.ahead (pollItem Feed.source s f).2.1) := by
  cases hs : s.state with
  | idle => simpa only [pollItem, hs] using emits_pollNext (hc.of_idle hs).1 hs f
  | fetching uri => simpa only [pollItem, hs] using emits_pollPage (hc.of_fetching hs).1 hs f
  | hasRows =>
    obtain ⟨raw, rest, hb⟩ := List.exists_cons_of_ne_nil (hc.buffer_ne_nil hs)
    simpa only [pollItem, hs, hb] using emits_deliver hs hb f
  | exhausted | failed | closed =>
    have ht : s.state.isTerminated = true := by rw [hs]; rfl
    rw [pollItem_of_terminated Feed.source ht]
    exact ⟨ahead_of_terminated ht f, ahead_of_terminated ht f⟩

end Step

/-- A poll for rows does as well. -/
theorem emits_poll {s : RowStream} (hc : s.Coherent) (f : Feed) :
    (s.ahead f).Emits ((poll Feed.source s f).2.2.map .row)
      ((poll Feed.source s f).1.ahead (poll Feed.source s f).2.1) := by
  fun_induction poll Feed.source s f with
  | case1 s f s' f' c hp hlt ih =>
    have hstep := emits_pollItem hc f
    have hc' := coherent_pollItem Feed.source hc f
    rw [hp] at hstep hc'
    have heq : s.ahead f = s'.ahead f' := hstep
    rw [heq]
    exact ih hc'
  | case2 s f s' f' r hp | case3 s f s' f' e hp | case4 s f s' f' hp | case5 s f s' f' hp =>
    simpa only [hp, StreamEvent.map] using emits_pollItem hc f

end RowStream

/-! ## Whole readings -/

namespace Reading

/-- A reading as polls for rows tell it. -/
def events (a : Reading) : List (StreamEvent StreamItem) :=
  a.rows.map (fun r => .item (.row r)) ++ a.error.toList.map .failure

@[simp] theorem events_nil : ({} : Reading).events = [] := rfl

@[simp] theorem events_failed (e : Error) : (failed e).events = [.failure e] := rfl

@[simp] theorem events_cons (r : Row) (a : Reading) :
    (a.cons r).events = .item (.row r) :: a.events := rfl

theorem prefix_replicate_succ (a : Reading) (n : Nat) :
    a.events ++ List.replicate n .over <+: a.events ++ List.replicate (n + 1) .over := by
  rw [List.replicate_succ', ← List.append_assoc]
  exact List.prefix_append _ _

/-- What polls for rows tell of a reading, told step by step. -/
theorem Emits.prefix_answers {a b : Reading} {e : StreamEvent Row} (h : a.Emits (e.map .row) b)
    {later : List (StreamEvent StreamItem)} {n : Nat}
    (hl : RowStream.answers later <+: b.events ++ List.replicate n .over) :
    RowStream.answers (e.map .row :: later) <+: a.events ++ List.replicate (n + 1) .over := by
  cases e with
  | pending =>
    have heq : a = b := h
    rw [heq]
    simpa [StreamEvent.map] using hl.trans (b.prefix_replicate_succ n)
  | item r =>
    have heq : a = b.cons r := h
    rw [heq, RowStream.answers_cons (by simp), events_cons]
    exact List.cons_prefix_cons.2 ⟨rfl, hl.trans (b.prefix_replicate_succ n)⟩
  | failure x =>
    obtain ⟨rfl, rfl⟩ := h
    rw [RowStream.answers_cons (by simp), events_failed]
    exact List.cons_prefix_cons.2 ⟨rfl, hl.trans (prefix_replicate_succ {} n)⟩
  | «over» =>
    obtain ⟨rfl, rfl⟩ := h
    rw [RowStream.answers_cons (by simp), List.replicate_succ]
    exact List.cons_prefix_cons.2 ⟨rfl, hl⟩

end Reading

namespace RowStream

open Reading

/-- Polls for rows tell what is ahead, and then nothing but the end. -/
theorem prefix_answers_run (n : Nat) {s : RowStream} (hc : s.Coherent) (f : Feed) :
    answers (s.run Feed.source f (List.replicate n .rows)).events
      <+: (s.ahead f).events ++ List.replicate n .over := by
  induction n generalizing s f with
  | zero => exact List.nil_prefix
  | succ n ih =>
    rw [List.replicate_succ, run_cons]
    exact (emits_poll hc f).prefix_answers (ih (coherent_mode_poll Feed.source .rows hc f) _)

/-- Reading a stream to its end gives what is ahead of it. -/
theorem readAll_of_coherent {s : RowStream} (hc : s.Coherent) (f : Feed) :
    ((rows Feed.source).readAll s f).2.2 = ((s.ahead f).rows, (s.ahead f).error) := by
  fun_induction StreamReader.readAll (rows Feed.source) s f with
  | case1 s f s' f' hp hn ih =>
    have hstep := emits_poll hc f
    have hc' := coherent_mode_poll Feed.source .rows hc f
    have hp' : poll Feed.source s f = (s', f', .pending) := hp
    simp only [ReadMode.poll, hp'] at hstep hc'
    have heq : s.ahead f = s'.ahead f' := hstep
    rw [heq]
    exact ih hc'
  | case2 s f s' f' r hp hn s'' f'' rs e hr ih =>
    have hstep := emits_poll hc f
    have hc' := coherent_mode_poll Feed.source .rows hc f
    have hp' : poll Feed.source s f = (s', f', .item r) := hp
    simp only [ReadMode.poll, hp'] at hstep hc'
    have heq : s.ahead f = (s'.ahead f').cons r := hstep
    have hrest := ih hc'
    rw [hr] at hrest
    simp only [Prod.mk.injEq] at hrest
    simp [heq, cons, hrest]
  | case3 s f s' f' e hp =>
    have hstep := emits_poll hc f
    have hp' : poll Feed.source s f = (s', f', .failure e) := hp
    rw [hp'] at hstep
    rw [hstep.1]
    rfl
  | case4 s f s' f' hp =>
    have hstep := emits_poll hc f
    have hp' : poll Feed.source s f = (s', f', .over) := hp
    rw [hp'] at hstep
    rw [hstep.1]

theorem ahead_of_start {first : QueryPage} {s : RowStream} (h : start first = .ok s) (f : Feed) :
    s.ahead f = Reading.of first f.pages f.exhausted := by
  obtain ⟨herr, columns, hcol, rfl⟩ := absorb_of_ok (create_of_start h)
  have hnil : (inForce []).mapM Column.ofField = .ok [] := rfl
  unfold Reading.of
  rw [readPages_eq_readOn hnil, readOn_page, ahead_settle, herr]
  simp only [hcol]
  rfl

/-- A stream hands out what its query reads as. Whoever reads it to the end gets the rows and the
failure of the reading. Polls for rows come to the rows, the failure and then the end alone, each of
them once, and only as many polls as the script leaves waiting come to nothing. -/
theorem delivery_of_start {first : QueryPage} {s₀ : RowStream} (h : start first = .ok s₀)
    (f : Feed) :
    let reading := Reading.of first f.pages f.exhausted
    ((rows Feed.source).readAll s₀ f).2.2 = (reading.rows, reading.error)
      ∧ ∀ n,
        let polls := (s₀.run Feed.source f (List.replicate n .rows)).events
        answers polls <+: reading.events ++ List.replicate n .over
          ∧ n ≤ (answers polls).length + f.waiting := by
  intro reading
  have hahead : s₀.ahead f = reading := ahead_of_start h f
  refine ⟨?_, fun n => ⟨?_, ?_⟩⟩
  · rw [← hahead]
    exact readAll_of_coherent (coherent_start h) f
  · rw [← hahead]
    exact prefix_answers_run n (coherent_start h) f
  · simpa using length_le_answers_add_waiting (List.replicate n .rows) s₀ f

/-- A schema that comes late, a page without rows and a failure behind a full page. -/
theorem delivery_of_start_late_schema :
    let first : QueryPage := { id := "q1", nextUri := some "/p/1" }
    let full : QueryPage :=
      { id := "q1", schema := [⟨"n", "Int8"⟩], data := [[some "7"]], nextUri := some "/p/2" }
    let f : Feed :=
      { script := [⟨2, .ok { first with killUri := some "/k" }⟩, ⟨0, .ok full⟩],
        exhausted := .emptyResult }
    ∃ s₀, start first = .ok s₀
      ∧ ((rows Feed.source).readAll s₀ f).2.2
        = ([⟨[⟨"n", .signed .w8⟩], [.int64 7]⟩], some .emptyResult) := by
  intro first full f
  have hok : (start first).isOk = true := by decide +kernel
  obtain ⟨s₀, h⟩ := exists_start hok
  refine ⟨s₀, h, ?_⟩
  rw [(delivery_of_start h f).1]
  decide +kernel

end RowStream

end QueryClient
