import QueryClient.Stream.Read

/-!
# Runs of a stream

A stream is polled for its rows alone, or for the counters of its pages as well. A run is any list
of such polls. Both kinds mix, so each step that a poll for rows takes is itself the end of a run,
and what `pollItem` keeps a run keeps (`run_invariant`).

`PageSource.recorded` is a source that also writes down what it was asked and what it answered;
nothing else of a run depends on that (`run_recorded`).
-/

namespace QueryClient

variable {σ : Type}

/-- What a stream is polled for. -/
inductive ReadMode where
  | rows
  /-- Rows, and the counters of every page that is fetched. -/
  | items
  deriving DecidableEq, Repr

namespace StreamEvent

variable {α β : Type}

def map (f : α → β) : StreamEvent α → StreamEvent β
  | .pending => .pending
  | .item a => .item (f a)
  | .failure e => .failure e
  | .over => .over

@[simp] theorem map_eq_over {f : α → β} {e : StreamEvent α} : e.map f = .over ↔ e = .over := by
  cases e <;> simp [map]

@[simp] theorem map_eq_pending {f : α → β} {e : StreamEvent α} :
    e.map f = .pending ↔ e = .pending := by
  cases e <;> simp [map]

@[simp] theorem map_eq_failure {f : α → β} {e : StreamEvent α} {x : Error} :
    e.map f = .failure x ↔ e = .failure x := by
  cases e <;> simp [map]

/-- Whether no item comes after an event. -/
def isLast : StreamEvent α → Bool
  | .failure _ | .over => true
  | .pending | .item _ => false

@[simp] theorem isLast_map (f : α → β) (e : StreamEvent α) : (e.map f).isLast = e.isLast := by
  cases e <;> rfl

@[simp] theorem ofResult_eq_failure {r : Result α} {x : Error} :
    ofResult r = .failure x ↔ r = .error x := by
  cases r <;> simp [ofResult]

@[simp] theorem ofResult_ne_over (r : Result α) : ofResult r ≠ .over := by
  cases r <;> simp [ofResult]

@[simp] theorem ofResult_ne_pending (r : Result α) : ofResult r ≠ .pending := by
  cases r <;> simp [ofResult]

end StreamEvent

/-- Where a run of a stream ended, and what its polls came to. -/
structure StreamRun (σ : Type) where
  stream : RowStream
  source : σ
  events : List (StreamEvent StreamItem)

namespace RowStream

section Poll

variable (src : PageSource σ)

theorem poll_eq (s : RowStream) (w : σ) :
    poll src s w = match pollItem src s w with
      | (s', w', .item (.stats _)) => poll src s' w'
      | (s', w', .item (.row r)) => (s', w', .item r)
      | (s', w', .failure e) => (s', w', .failure e)
      | (s', w', .pending) => (s', w', .pending)
      | (s', w', .over) => (s', w', .over) := by
  rw [poll]
  split <;> rename_i h <;> simp only [h]

/-- What one step keeps, a poll for rows keeps. -/
theorem poll_invariant {P : RowStream → σ → Prop}
    (step : ∀ s w, P s w → P (pollItem src s w).1 (pollItem src s w).2.1) {s : RowStream} {w : σ}
    (h : P s w) : P (poll src s w).1 (poll src s w).2.1 := by
  fun_induction poll src s w with
  | case1 s w s' w' c hp hlt ih =>
    have := step s w h
    rw [hp] at this
    exact ih this
  | case2 s w s' w' r hp => simpa [hp] using step s w h
  | case3 s w s' w' e hp => simpa [hp] using step s w h
  | case4 s w s' w' hp => simpa [hp] using step s w h
  | case5 s w s' w' hp => simpa [hp] using step s w h

/-- What one step keeps, waiting for a row keeps. -/
theorem next_invariant {P : RowStream → σ → Prop}
    (step : ∀ s w, P s w → P (pollItem src s w).1 (pollItem src s w).2.1) {s : RowStream} {w : σ}
    (h : P s w) : P ((rows src).next s w).1 ((rows src).next s w).2.1 := by
  have hpoll {s : RowStream} {w : σ} (h : P s w) :
      P ((rows src).poll s w).1 ((rows src).poll s w).2.1 := poll_invariant src step h
  fun_induction (rows src).next s w with
  | case1 s w s' w' hp hn ih =>
    have := hpoll h
    rw [hp] at this
    exact ih this
  | case2 s w s' w' a hp => simpa [hp] using hpoll h
  | case3 s w s' w' e hp => simpa [hp] using hpoll h
  | case4 s w s' w' hp => simpa [hp] using hpoll h

end Poll

end RowStream

/-- A poll in a mode. -/
def ReadMode.poll (src : PageSource σ) (mode : ReadMode) (s : RowStream) (w : σ) :
    RowStream × σ × StreamEvent StreamItem :=
  match mode with
  | .rows =>
    let (s, w, e) := RowStream.poll src s w
    (s, w, e.map .row)
  | .items => RowStream.pollItem src s w

theorem ReadMode.poll_invariant (src : PageSource σ) {P : RowStream → σ → Prop}
    (step : ∀ s w, P s w →
      P (RowStream.pollItem src s w).1 (RowStream.pollItem src s w).2.1)
    (mode : ReadMode) {s : RowStream} {w : σ} (h : P s w) :
    P (mode.poll src s w).1 (mode.poll src s w).2.1 := by
  cases mode with
  | rows => exact RowStream.poll_invariant src step h
  | items => exact step s w h

namespace RowStream

section Run

variable (src : PageSource σ)

/-- Polls a stream once in each mode of a list. -/
def run (s : RowStream) (w : σ) : List ReadMode → StreamRun σ
  | [] => ⟨s, w, []⟩
  | mode :: modes =>
    match mode.poll src s w with
    | (s, w, e) =>
      let r := run s w modes
      { r with events := e :: r.events }

@[simp] theorem run_nil (s : RowStream) (w : σ) : s.run src w [] = ⟨s, w, []⟩ := rfl

theorem run_cons (s : RowStream) (w : σ) (mode : ReadMode) (modes : List ReadMode) :
    s.run src w (mode :: modes) =
      ⟨((mode.poll src s w).1.run src (mode.poll src s w).2.1 modes).stream,
        ((mode.poll src s w).1.run src (mode.poll src s w).2.1 modes).source,
        (mode.poll src s w).2.2
          :: ((mode.poll src s w).1.run src (mode.poll src s w).2.1 modes).events⟩ := rfl

theorem run_append (s : RowStream) (w : σ) (before after : List ReadMode) :
    s.run src w (before ++ after) =
      ⟨((s.run src w before).stream.run src (s.run src w before).source after).stream,
        ((s.run src w before).stream.run src (s.run src w before).source after).source,
        (s.run src w before).events
          ++ ((s.run src w before).stream.run src (s.run src w before).source after).events⟩ := by
  induction before generalizing s w with
  | nil => rfl
  | cons mode before ih => simp only [List.cons_append, run_cons, ih]

/-- What one step keeps, a run keeps. -/
theorem run_invariant {P : RowStream → σ → Prop}
    (step : ∀ s w, P s w → P (pollItem src s w).1 (pollItem src s w).2.1)
    (modes : List ReadMode) {s : RowStream} {w : σ} (h : P s w) :
    P (s.run src w modes).stream (s.run src w modes).source := by
  induction modes generalizing s w with
  | nil => exact h
  | cons mode modes ih => exact ih (ReadMode.poll_invariant src step mode h)

@[simp] theorem length_events_run (s : RowStream) (w : σ) (modes : List ReadMode) :
    (s.run src w modes).events.length = modes.length := by
  induction modes generalizing s w with
  | nil => rfl
  | cons mode modes ih => simp [run_cons, ih]

end Run

end RowStream

/-! ## What is asked of a source -/

/-- A call of a source, with its answer. -/
inductive Exchange where
  /-- The page behind a link was asked for. -/
  | asked (uri : String)
  /-- The page was not there yet. -/
  | waited (uri : String)
  | arrived (uri : String) (page : Result QueryPage)
  | killed (uri : String) (outcome : Result Unit)
  | killedDetached (uri : String)

/-- All calls of a source in order. -/
abbrev Transcript := List Exchange

namespace Transcript

/-- The links that pages were asked for. -/
def fetched (t : Transcript) : List String :=
  t.filterMap fun
    | .asked uri => some uri
    | _ => none

/-- What came of the pages that were asked for. -/
def arrivals (t : Transcript) : List (Result QueryPage) :=
  t.filterMap fun
    | .arrived _ page => some page
    | _ => none

/-- The links that queries were cancelled with, awaited or not. -/
def kills (t : Transcript) : List String :=
  t.filterMap fun
    | .killed uri _ | .killedDetached uri => some uri
    | _ => none

@[simp] theorem fetched_append (t d : Transcript) :
    Transcript.fetched (t ++ d) = t.fetched ++ Transcript.fetched d :=
  List.filterMap_append

@[simp] theorem arrivals_append (t d : Transcript) :
    Transcript.arrivals (t ++ d) = t.arrivals ++ Transcript.arrivals d :=
  List.filterMap_append

@[simp] theorem kills_append (t d : Transcript) :
    Transcript.kills (t ++ d) = t.kills ++ Transcript.kills d :=
  List.filterMap_append

end Transcript

/-- A source together with its calls so far. -/
structure Recorded (σ : Type) where
  source : σ
  transcript : Transcript := []

namespace PageSource

variable (src : PageSource σ)

/-- The source that keeps its calls. -/
def recorded : PageSource (Recorded σ) where
  fetch w uri := ⟨src.fetch w.source uri, w.transcript ++ [.asked uri]⟩
  poll w uri :=
    match src.poll w.source uri with
    | (v, .pending) => (⟨v, w.transcript ++ [.waited uri]⟩, .pending)
    | (v, .ready page) => (⟨v, w.transcript ++ [.arrived uri page]⟩, .ready page)
  kill w uri :=
    let (v, outcome) := src.kill w.source uri
    (⟨v, w.transcript ++ [.killed uri outcome]⟩, outcome)
  killDetached w uri := ⟨src.killDetached w.source uri, w.transcript ++ [.killedDetached uri]⟩
  remaining w := src.remaining w.source
  remaining_fetch_le w uri := src.remaining_fetch_le w.source uri
  remaining_poll_lt w uri h := by
    have := src.remaining_poll_lt w.source uri
    split at h <;> simp_all [PageAnswer.isFailure]

@[simp] theorem recorded_fetch (w : Recorded σ) (uri : String) :
    src.recorded.fetch w uri =
      ⟨src.fetch w.source uri, w.transcript ++ [.asked uri]⟩ := rfl

@[simp] theorem recorded_kill (w : Recorded σ) (uri : String) :
    src.recorded.kill w uri =
      (⟨(src.kill w.source uri).1, w.transcript ++ [.killed uri (src.kill w.source uri).2]⟩,
        (src.kill w.source uri).2) := rfl

@[simp] theorem recorded_killDetached (w : Recorded σ) (uri : String) :
    src.recorded.killDetached w uri =
      ⟨src.killDetached w.source uri, w.transcript ++ [.killedDetached uri]⟩ := rfl

theorem recorded_poll_pending {w : Recorded σ} {uri : String} {v : σ}
    (h : src.poll w.source uri = (v, .pending)) :
    src.recorded.poll w uri = (⟨v, w.transcript ++ [.waited uri]⟩, .pending) := by
  simp only [recorded, h]

theorem recorded_poll_ready {w : Recorded σ} {uri : String} {v : σ} {page : Result QueryPage}
    (h : src.poll w.source uri = (v, .ready page)) :
    src.recorded.poll w uri = (⟨v, w.transcript ++ [.arrived uri page]⟩, .ready page) := by
  simp only [recorded, h]

end PageSource

/-! ## Recording changes nothing -/

/-- An answer of a poll without the calls that were kept. -/
def unrecorded {α : Type} (r : RowStream × Recorded σ × α) : RowStream × σ × α :=
  (r.1, r.2.1.source, r.2.2)

namespace RowStream

variable (src : PageSource σ)

theorem pollPage_recorded (s : RowStream) (w : Recorded σ) (uri : String) :
    unrecorded (pollPage src.recorded s w uri) = pollPage src s w.source uri := by
  rcases h : src.poll w.source uri with ⟨v, _ | page⟩
  · simp [pollPage, src.recorded_poll_pending h, h, unrecorded]
  · simp [pollPage, src.recorded_poll_ready h, h, unrecorded]

theorem pollNext_recorded (s : RowStream) (w : Recorded σ) :
    unrecorded (pollNext src.recorded s w) = pollNext src s w.source := by
  unfold pollNext
  cases s.nextUri with
  | none => rfl
  | some uri => exact pollPage_recorded src _ _ uri

theorem pollItem_recorded (s : RowStream) (w : Recorded σ) :
    unrecorded (pollItem src.recorded s w) = pollItem src s w.source := by
  unfold pollItem
  split
  · rfl
  · exact pollNext_recorded src s w
  · exact pollNext_recorded src s w
  · exact pollPage_recorded src s w _
  all_goals rfl

theorem poll_recorded (s : RowStream) (w : Recorded σ) :
    unrecorded (poll src.recorded s w) = poll src s w.source := by
  fun_induction poll src.recorded s w with
  | case1 s w s' w' c hp hlt ih =>
    have h := pollItem_recorded src s w
    rw [hp] at h
    rw [ih, poll_eq src s, ← h]
    rfl
  | case2 s w s' w' r hp | case3 s w s' w' e hp | case4 s w s' w' hp | case5 s w s' w' hp =>
    have h := pollItem_recorded src s w
    rw [hp] at h
    rw [poll_eq src s, ← h]
    rfl

theorem mode_poll_recorded (mode : ReadMode) (s : RowStream) (w : Recorded σ) :
    unrecorded (mode.poll src.recorded s w) = mode.poll src s w.source := by
  cases mode with
  | rows =>
    simp only [ReadMode.poll, ← RowStream.poll_recorded src s w]
    rfl
  | items => exact pollItem_recorded src s w

/-- A run does not depend on whether its calls are kept. -/
theorem run_recorded (s : RowStream) (w : Recorded σ) (modes : List ReadMode) :
    let r := s.run src.recorded w modes
    s.run src w.source modes = ⟨r.stream, r.source.source, r.events⟩ := by
  induction modes generalizing s w with
  | nil => rfl
  | cons mode modes ih =>
    have h := mode_poll_recorded src mode s w
    simp only [run_cons, ← h, unrecorded, ih]

end RowStream

end QueryClient
