import QueryClient.Proofs.Stream.Moves
import QueryClient.Stream.Feed

/-!
# The states of a stream

A stream that took its first page over stays coherent in every run, so a poll never meets an empty
buffer where it expects a row, nor a missing link where it expects one (`pollElse_eq`). A stream
that is exhausted or failed stays as it is and asks its source for nothing (`run_of_terminated`);
any other one gets something done in every poll (`progress_mode_poll`).
-/

namespace QueryClient

variable {σ : Type}

namespace RowStream

section Fallback

variable (src : PageSource σ)

/-- A poll that leaves to `otherwise` what happens where a row or a link is missing. -/
def pollElse (otherwise : RowStream → σ → RowStream × σ × StreamEvent StreamItem)
    (s : RowStream) (w : σ) : RowStream × σ × StreamEvent StreamItem :=
  match s.state, s.buffer, s.nextUri with
  | .hasRows, raw :: rest, _ =>
    let (s, r) := s.deliver raw rest
    (s, w, .ofResult r)
  | .idle, _, some uri => pollPage src (s.asking uri) (src.fetch w uri) uri
  | .fetching uri, _, _ => pollPage src s w uri
  | .exhausted, _, _ | .failed, _, _ | .closed, _, _ => (s, w, .over)
  | .hasRows, [], _ | .idle, _, none => otherwise s w

theorem pollElse_eq {s : RowStream} (hc : s.Coherent)
    (otherwise : RowStream → σ → RowStream × σ × StreamEvent StreamItem) (w : σ) :
    pollElse src otherwise s w = pollItem src s w := by
  cases hs : s.state with
  | idle =>
    obtain ⟨uri, hn⟩ := (hc.of_idle hs).2
    simp [pollElse, pollItem, pollNext, hs, hn]
  | hasRows =>
    obtain ⟨raw, rest, hb⟩ := List.exists_cons_of_ne_nil (hc.buffer_ne_nil hs)
    simp [pollElse, pollItem, hs, hb]
  | fetching uri => simp [pollElse, pollItem, hs]
  | exhausted | failed | closed => simp [pollElse, pollItem, hs]

end Fallback

section Terminated

variable (src : PageSource σ) {s : RowStream}

theorem pollItem_of_terminated (h : s.state.isTerminated = true) (w : σ) :
    pollItem src s w = (s, w, .over) := by
  unfold pollItem
  split <;> simp_all [StreamState.isTerminated]

theorem mode_poll_of_terminated (h : s.state.isTerminated = true) (w : σ) (mode : ReadMode) :
    mode.poll src s w = (s, w, .over) := by
  cases mode with
  | rows => simp [ReadMode.poll, poll_eq, pollItem_of_terminated src h, StreamEvent.map]
  | items => exact pollItem_of_terminated src h w

theorem run_of_terminated (h : s.state.isTerminated = true) (w : σ) (modes : List ReadMode) :
    s.run src w modes = ⟨s, w, modes.map fun _ => .over⟩ := by
  induction modes with
  | nil => rfl
  | cons mode modes ih => simp [run_cons, mode_poll_of_terminated src h, ih]

theorem isTerminated_iff (h : s.state ≠ .closed) :
    s.state.isTerminated = true ↔ s.state = .exhausted ∨ s.state = .failed := by
  cases hs : s.state <;> simp_all [StreamState.isTerminated]

end Terminated

/-! ## What a failure and the end leave behind -/

section Last

variable (src : PageSource σ)

/-- What handing out the first buffered row comes to. -/
theorem deliver_cases (s : RowStream) (raw : RawRow) (rest : List RawRow) :
    (∃ r, s.decode raw = .ok r ∧ (s.deliver raw rest).2 = .ok (.row r)
        ∧ (s.deliver raw rest).1.buffer = rest)
      ∨ ∃ e, (s.deliver raw rest).2 = .error e ∧ (s.deliver raw rest).1.state = .failed := by
  simp only [deliver]
  split
  · next r hd =>
    refine .inl ⟨r, hd, rfl, ?_⟩
    by_cases hr : rest = [] <;> simp [hr]
  · next e hd => exact .inr ⟨e, rfl, rfl⟩

theorem deliver_of_error {s : RowStream} {raw : RawRow} {rest : List RawRow} {x : Error}
    (h : (s.deliver raw rest).2 = .error x) : (s.deliver raw rest).1.state = .failed := by
  rcases deliver_cases s raw rest with ⟨r, -, hr, -⟩ | ⟨e, -, hs⟩
  · simp [hr] at h
  · exact hs

theorem receive_of_error {s : RowStream} {page : Result QueryPage} {x : Error}
    (h : (s.receive page).2 = .error x) : (s.receive page).1.state = .failed := by
  rcases s.receive_cases page with ⟨p, -, -, hr⟩ | ⟨e, link, -, hr⟩
  · simp [hr] at h
  · rw [hr]

theorem pollPage_of_failure {s : RowStream} {w : σ} {uri : String} {x : Error}
    (h : (pollPage src s w uri).2.2 = .failure x) :
    (pollPage src s w uri).1.state = .failed := by
  unfold pollPage at h ⊢
  split at h
  · simp at h
  · exact receive_of_error (StreamEvent.ofResult_eq_failure.1 h)

theorem pollNext_of_failure {s : RowStream} {w : σ} {x : Error}
    (h : (pollNext src s w).2.2 = .failure x) : (pollNext src s w).1.state = .failed := by
  unfold pollNext at h ⊢
  split at h
  · exact pollPage_of_failure src h
  · simp at h

theorem pollItem_of_failure {s : RowStream} {w : σ} {x : Error}
    (h : (pollItem src s w).2.2 = .failure x) : (pollItem src s w).1.state = .failed := by
  unfold pollItem at h ⊢
  split at h
  · exact deliver_of_error (StreamEvent.ofResult_eq_failure.1 h)
  · exact pollNext_of_failure src h
  · exact pollNext_of_failure src h
  · exact pollPage_of_failure src h
  all_goals simp at h

theorem pollPage_ne_over (s : RowStream) (w : σ) (uri : String) :
    (pollPage src s w uri).2.2 ≠ .over := by
  unfold pollPage
  split <;> simp

theorem pollNext_of_over {s : RowStream} {w : σ} (h : (pollNext src s w).2.2 = .over) :
    (pollNext src s w).1.state = .exhausted := by
  unfold pollNext at h ⊢
  split at h
  · exact absurd h (pollPage_ne_over src _ _ _)
  · rfl

theorem pollItem_of_over {s : RowStream} {w : σ} (h : (pollItem src s w).2.2 = .over) :
    (pollItem src s w).1.state.isTerminated = true := by
  unfold pollItem at h ⊢
  split at h
  · simp at h
  · rw [pollNext_of_over src h]; rfl
  · rw [pollNext_of_over src h]; rfl
  · exact absurd h (pollPage_ne_over src _ _ _)
  all_goals simp [StreamState.isTerminated, *]

theorem pollItem_of_isLast {s : RowStream} {w : σ}
    (h : (pollItem src s w).2.2.isLast = true) :
    (pollItem src s w).1.state.isTerminated = true := by
  cases he : (pollItem src s w).2.2 with
  | failure x => rw [pollItem_of_failure src he]; rfl
  | «over» => exact pollItem_of_over src he
  | pending | item a => simp [he, StreamEvent.isLast] at h

theorem poll_of_isLast (s : RowStream) (w : σ) (h : (poll src s w).2.2.isLast = true) :
    (poll src s w).1.state.isTerminated = true := by
  fun_induction poll src s w with
  | case1 s w s' w' c hp hlt ih => exact ih h
  | case3 s w s' w' e hp =>
    have := pollItem_of_isLast src (s := s) (w := w)
    rw [hp] at this
    exact this rfl
  | case5 s w s' w' hp =>
    have := pollItem_of_isLast src (s := s) (w := w)
    rw [hp] at this
    exact this rfl
  | case2 | case4 => simp [StreamEvent.isLast] at h

theorem mode_poll_of_isLast {s : RowStream} {w : σ} {mode : ReadMode}
    (h : (mode.poll src s w).2.2.isLast = true) :
    (mode.poll src s w).1.state.isTerminated = true := by
  cases mode with
  | rows => exact poll_of_isLast src s w (by simpa [ReadMode.poll] using h)
  | items => exact pollItem_of_isLast src h

/-- A run that came to a failure or the end is over for good. -/
theorem run_of_isLast {s : RowStream} {w : σ} {modes : List ReadMode}
    {e : StreamEvent StreamItem} (he : e ∈ (s.run src w modes).events) (hl : e.isLast = true) :
    (s.run src w modes).stream.state.isTerminated = true := by
  induction modes generalizing s w with
  | nil => simp at he
  | cons mode modes ih =>
    simp only [run_cons, List.mem_cons] at he ⊢
    rcases he with rfl | he
    · have ht := mode_poll_of_isLast src hl
      rwa [run_of_terminated src ht]
    · exact ih he

/-- After the end there is nothing but the end. -/
theorem getLast?_run_of_over {s : RowStream} {w : σ} {modes : List ReadMode}
    (h : .over ∈ (s.run src w modes).events) :
    (s.run src w modes).events.getLast? = some .over := by
  induction modes generalizing s w with
  | nil => simp at h
  | cons mode modes ih =>
    simp only [run_cons, List.mem_cons] at h ⊢
    rcases h with h | h
    · have ht : (mode.poll src s w).1.state.isTerminated = true :=
        mode_poll_of_isLast src (by rw [← h]; rfl)
      rw [run_of_terminated src ht, ← h, List.getLast?_cons, List.getLast?_map]
      cases modes.getLast? <;> rfl
    · rw [List.getLast?_cons, ih h]
      rfl

end Last

/-! ## Progress -/

section Progress

variable (src : PageSource σ) {s : RowStream}

/-- A step that does not end a coherent stream comes to an event. -/
theorem pollItem_ne_over (hc : s.Coherent) (ht : s.state.isTerminated = false) (w : σ) :
    (pollItem src s w).2.2 ≠ .over := by
  cases hs : s.state with
  | idle =>
    obtain ⟨uri, hn⟩ := (hc.of_idle hs).2
    simpa [pollItem, pollNext, hs, hn] using pollPage_ne_over src _ _ uri
  | hasRows =>
    obtain ⟨raw, rest, hb⟩ := List.exists_cons_of_ne_nil (hc.buffer_ne_nil hs)
    simp [pollItem, hs, hb]
  | fetching uri => simpa [pollItem, hs] using pollPage_ne_over src s w uri
  | exhausted | failed | closed => simp [hs, StreamState.isTerminated] at ht

theorem deliver_ne_stats (s : RowStream) (raw : RawRow) (rest : List RawRow) (c : QueryStats) :
    (s.deliver raw rest).2 ≠ .ok (.stats c) := by
  rcases deliver_cases s raw rest with ⟨r, -, hr, -⟩ | ⟨e, he, -⟩
  · simp [hr]
  · simp [he]

theorem transcript_pollPage_of_stats {w : Recorded σ} {uri : String} {c : QueryStats}
    (h : (pollPage src.recorded s w uri).2.2 = .item (.stats c)) :
    ∃ page, (pollPage src.recorded s w uri).2.1.transcript =
      w.transcript ++ [.arrived uri page] := by
  rcases hp : src.poll w.source uri with ⟨v, _ | page⟩
  · simp [pollPage, src.recorded_poll_pending hp] at h
  · exact ⟨page, by simp [pollPage, src.recorded_poll_ready hp]⟩

theorem transcript_pollNext_of_stats {w : Recorded σ} {c : QueryStats}
    (h : (pollNext src.recorded s w).2.2 = .item (.stats c)) :
    ∃ uri page, (pollNext src.recorded s w).2.1.transcript =
      w.transcript ++ [.asked uri, .arrived uri page] := by
  unfold pollNext at h ⊢
  split at h
  · next uri _ =>
    obtain ⟨page, hp⟩ := transcript_pollPage_of_stats src h
    exact ⟨uri, page, by rw [hp]; simp⟩
  · simp at h

/-- The counters of a page are told in the step that receives it. -/
theorem transcript_pollItem_of_stats {w : Recorded σ} {c : QueryStats}
    (h : (pollItem src.recorded s w).2.2 = .item (.stats c)) :
    ∃ d uri page, (pollItem src.recorded s w).2.1.transcript =
      w.transcript ++ d ++ [.arrived uri page] := by
  unfold pollItem at h ⊢
  split at h
  · next raw rest _ _ =>
    have := deliver_ne_stats s raw rest c
    cases hd : (s.deliver raw rest).2 <;> simp_all [StreamEvent.ofResult]
  · obtain ⟨uri, page, hp⟩ := transcript_pollNext_of_stats src h
    exact ⟨[.asked uri], uri, page, by simp [hp]⟩
  · obtain ⟨uri, page, hp⟩ := transcript_pollNext_of_stats src h
    exact ⟨[.asked uri], uri, page, by simp [hp]⟩
  · next uri _ =>
    obtain ⟨page, hp⟩ := transcript_pollPage_of_stats src h
    exact ⟨[], uri, page, by simp [hp]⟩
  all_goals simp at h

/-- A poll for rows that ends a coherent stream received a page before. -/
theorem arrived_of_poll_over (hc : s.Coherent) (ht : s.state.isTerminated = false)
    (w : Recorded σ) (h : (poll src.recorded s w).2.2 = .over) :
    ∃ d uri page, (poll src.recorded s w).2.1.transcript = w.transcript ++ d
      ∧ .arrived uri page ∈ d := by
  have hne := pollItem_ne_over src.recorded hc ht w
  have hst (c : QueryStats) := transcript_pollItem_of_stats src (s := s) (w := w) (c := c)
  obtain ⟨d₀, -, hm⟩ := moves_pollItem src hc w
  rw [poll_eq] at h ⊢
  rcases hp : pollItem src.recorded s w with ⟨s', w', _ | c | e | _⟩ <;>
    simp only [hp] at h hne hst hm ⊢
  · simp at h
  · cases c with
    | row r => simp at h
    | stats c =>
      obtain ⟨d, uri, page, hd⟩ := hst c rfl
      obtain ⟨d', hd', -⟩ := moves_mode_poll src (hm.coherent hc) w' .rows
      have hd'' : (poll src.recorded s' w').2.1.transcript = w'.transcript ++ d' := hd'
      exact ⟨d ++ .arrived uri page :: d', uri, page, by simp [hd'', hd], by simp⟩
  · simp at h
  · exact absurd rfl hne

/-- A poll of a coherent stream that goes on comes to an event, or a page has arrived. -/
theorem progress_mode_poll (hc : s.Coherent) (ht : s.state.isTerminated = false)
    (w : Recorded σ) (mode : ReadMode) :
    ∃ d, (mode.poll src.recorded s w).2.1.transcript = w.transcript ++ d
      ∧ ((mode.poll src.recorded s w).2.2 = .over → ∃ uri page, .arrived uri page ∈ d) := by
  by_cases h : (mode.poll src.recorded s w).2.2 = .over
  · cases mode with
    | rows =>
      have ho : (poll src.recorded s w).2.2 = .over := by simpa [ReadMode.poll] using h
      obtain ⟨d, uri, page, hd, hmem⟩ := arrived_of_poll_over src hc ht w ho
      exact ⟨d, hd, fun _ => ⟨uri, page, hmem⟩⟩
    | items => exact absurd h (pollItem_ne_over src.recorded hc ht w)
  · obtain ⟨d, hd, -⟩ := moves_mode_poll src hc w mode
    exact ⟨d, hd, fun ho => absurd ho h⟩

end Progress

/-! ## All runs -/

/-- In every state that a run reaches, the state tells what the buffer and the link hold, and the
ways out for a missing row or link do not matter. The terminated states are those that are exhausted
or failed; in them further polls change nothing and call nothing. In any other state a poll comes to
an item, a failure or to waiting, or it asks for a page or receives one. -/
theorem coherent_of_run (src : PageSource σ) (w : σ) {first : QueryPage} {s₀ : RowStream}
    (h : start first = .ok s₀) (modes : List ReadMode) :
    let r := s₀.run src.recorded ⟨w, []⟩ modes
    r.stream.Coherent
      ∧ (∀ otherwise, pollElse src.recorded otherwise r.stream r.source
          = pollItem src.recorded r.stream r.source)
      ∧ (r.stream.state.isTerminated = true ↔
          r.stream.state = .exhausted ∨ r.stream.state = .failed)
      ∧ (r.stream.state.isTerminated = true → ∀ later,
          r.stream.run src.recorded r.source later
            = ⟨r.stream, r.source, later.map fun _ => .over⟩)
      ∧ (r.stream.state.isTerminated = false → ∀ mode : ReadMode,
          let (_, v, e) := mode.poll src.recorded r.stream r.source
          ∃ d, v.transcript = r.source.transcript ++ d
            ∧ ((∃ a, e = .item a) ∨ (∃ x, e = .failure x) ∨ e = .pending
              ∨ ∃ uri, .asked uri ∈ d ∨ ∃ page, .arrived uri page ∈ d)) := by
  intro r
  obtain ⟨d, -, hm⟩ := moves_run src (coherent_start h) ⟨w, []⟩ modes
  have hc : r.stream.Coherent := hm.coherent (coherent_start h)
  have hne : r.stream.state ≠ .closed := hm.ne_closed (atRest_absorb (create_of_start h)).ne_closed
  refine ⟨hc, fun otherwise => pollElse_eq src.recorded hc otherwise r.source,
    isTerminated_iff hne, fun ht later => run_of_terminated src.recorded ht r.source later,
    fun ht mode => ?_⟩
  obtain ⟨d, hd, hover⟩ := progress_mode_poll src hc ht r.source mode
  refine ⟨d, hd, ?_⟩
  cases he : (mode.poll src.recorded r.stream r.source).2.2 with
  | pending => exact .inr (.inr (.inl he))
  | item a => exact .inl ⟨a, he⟩
  | failure e => exact .inr (.inl ⟨e, he⟩)
  | «over» =>
    obtain ⟨uri, page, hmem⟩ := hover he
    exact .inr (.inr (.inr ⟨uri, .inr ⟨page, hmem⟩⟩))

/-- A page that is waited for and then taken over, and one without rows that comes last. -/
theorem coherent_of_run_waiting :
    let first : QueryPage :=
      { id := "q1", schema := [⟨"n", "Int8"⟩], data := [[some "7"]], nextUri := some "/p/1" }
    let second : QueryPage := { id := "q1", data := [[some "8"]], nextUri := some "/p/2" }
    let f : Feed :=
      { script := [⟨1, .ok second⟩, ⟨0, .ok { id := "q1" }⟩], exhausted := .emptyResult }
    let src := Feed.source.recorded
    let row (n : Int64) : StreamEvent StreamItem := .item (.row ⟨[⟨"n", .signed .w8⟩], [.int64 n]⟩)
    ∃ s₀, start first = .ok s₀
      ∧ (let r := s₀.run src ⟨f, []⟩ [.rows, .rows, .rows]
        r.events = [row 7, .pending, row 8] ∧ r.stream.Coherent
          ∧ ∃ d, (ReadMode.rows.poll src r.stream r.source).2.1.transcript = r.source.transcript ++ d
            ∧ ∃ uri, .asked uri ∈ d ∨ ∃ page, .arrived uri page ∈ d)
      ∧ let r := s₀.run src ⟨f, []⟩ [.rows, .rows, .rows, .rows]
        r.events = [row 7, .pending, row 8, .over] ∧ r.stream.Coherent
          ∧ ∀ later, r.stream.run src r.source later
            = ⟨r.stream, r.source, later.map fun _ => .over⟩ := by
  intro first second f src row
  have heval : (start first).toOption.map (fun s =>
      let r := s.run src ⟨f, []⟩ [.rows, .rows, .rows]
      let last := s.run src ⟨f, []⟩ [.rows, .rows, .rows, .rows]
      (r.events, r.stream.state.isTerminated, (ReadMode.rows.poll src r.stream r.source).2.2,
        last.events, last.stream.state.isTerminated))
      = some ([row 7, .pending, row 8], false, .over, [row 7, .pending, row 8, .over], true) := by
    decide +kernel
  cases h : start first with
  | error e => rw [h] at heval; cases heval
  | ok s₀ =>
    rw [h] at heval
    simp only [Except.toOption, Option.map_some, Option.some.injEq, Prod.mk.injEq] at heval
    obtain ⟨hevents, hgoing, hover, hall, hdone⟩ := heval
    obtain ⟨hcoherent, -, -, -, hprogress⟩ :=
      coherent_of_run Feed.source f h [.rows, .rows, .rows]
    obtain ⟨hlast, -, -, hlater, -⟩ :=
      coherent_of_run Feed.source f h [.rows, .rows, .rows, .rows]
    refine ⟨s₀, rfl, ⟨hevents, hcoherent, ?_⟩, hall, hlast, hlater hdone⟩
    obtain ⟨d, hd, ⟨a, ha⟩ | ⟨x, hx⟩ | hwait | hfetch⟩ := hprogress hgoing .rows
    · cases hover.symm.trans ha
    · cases hover.symm.trans hx
    · cases hover.symm.trans hwait
    · exact ⟨d, hd, hfetch⟩

end RowStream

end QueryClient
