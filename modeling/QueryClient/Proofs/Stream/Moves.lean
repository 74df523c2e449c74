import Mathlib.Tactic.SplitIfs
import QueryClient.Proofs.Stream.Run

/-!
# What a stream can do in one move

In a coherent stream the state tells what the buffer and the link hold. A coherent stream has four
moves: it hands out a buffered row, asks for the page behind its link, waits for that page, or
receives it. Every poll is a list of such moves (`moves_run`), so whatever the moves keep holds of
all runs.
-/

namespace QueryClient

variable {σ : Type}

namespace StreamState

/-- Whether a stream is neither closed nor has a page on its way. -/
def AtRest : StreamState → Prop
  | .idle | .hasRows | .exhausted | .failed => True
  | .fetching _ | .closed => False

theorem AtRest.ne_closed {state : StreamState} (h : state.AtRest) : state ≠ .closed := by
  rintro rfl
  exact h

theorem AtRest.ne_fetching {state : StreamState} (h : state.AtRest) (uri : String) :
    state ≠ .fetching uri := by
  rintro rfl
  exact h

end StreamState

namespace RowStream

/-- The state tells what the buffer and the link hold. -/
def Coherent (s : RowStream) : Prop :=
  match s.state with
  | .hasRows => s.buffer ≠ []
  | .idle => s.buffer = [] ∧ s.nextUri.isSome
  | .fetching _ | .exhausted => s.buffer = [] ∧ s.nextUri = none
  | .failed | .closed => True

section Coherent

variable {s s' : RowStream}

theorem Coherent.buffer_ne_nil (h : s.Coherent) (hs : s.state = .hasRows) : s.buffer ≠ [] := by
  simpa [Coherent, hs] using h

theorem Coherent.of_idle (h : s.Coherent) (hs : s.state = .idle) :
    s.buffer = [] ∧ ∃ uri, s.nextUri = some uri := by
  simpa [Coherent, hs, Option.isSome_iff_exists] using h

theorem Coherent.of_fetching (h : s.Coherent) {uri : String} (hs : s.state = .fetching uri) :
    s.buffer = [] ∧ s.nextUri = none := by
  simpa [Coherent, hs] using h

theorem Coherent.of_exhausted (h : s.Coherent) (hs : s.state = .exhausted) :
    s.buffer = [] ∧ s.nextUri = none := by
  simpa [Coherent, hs] using h

theorem coherent_of_failed (hs : s.state = .failed) : s.Coherent := by
  simp [Coherent, hs]

theorem coherent_settle (s : RowStream) : s.settle.Coherent := by
  unfold settle Coherent
  by_cases hb : s.buffer = []
  · cases s.nextUri <;> simp [hb]
  · simp [hb]

theorem coherent_asking (h : s.buffer = []) (uri : String) : (s.asking uri).Coherent := by
  simp [Coherent, asking, h]

/-- A page that was taken over leaves a coherent stream. -/
theorem coherent_absorb {page : QueryPage} (h : s.absorb page = (s', .ok ())) : s'.Coherent := by
  obtain ⟨-, columns, -, rfl⟩ := absorb_of_ok h
  exact coherent_settle _

/-- A page that arrives is taken over, or it leaves everything but the state and the link. -/
theorem receive_cases (s : RowStream) (page : Result QueryPage) :
    (∃ p, page = .ok p ∧ s.absorb p = ((s.receive page).1, .ok ())
        ∧ (s.receive page).2 = .ok (.stats p.stats))
      ∨ ∃ e link, (link = none ∨ link = s.nextUri)
        ∧ s.receive page = ({ s with state := .failed, nextUri := link }, .error e) := by
  rcases page with e | page
  · exact .inr ⟨e, s.nextUri, .inr rfl, rfl⟩
  rcases ha : s.absorb page with ⟨s', e | u⟩
  · simp only [receive, ha]
    rcases absorb_of_error ha with rfl | rfl
    · exact .inr ⟨e, none, .inl rfl, rfl⟩
    · exact .inr ⟨e, s'.nextUri, .inr rfl, rfl⟩
  · obtain ⟨-, columns, -, rfl⟩ := absorb_of_ok ha
    simp only [receive, ha]
    exact .inl ⟨page, rfl, ha, rfl⟩

theorem coherent_receive (s : RowStream) (page : Result QueryPage) :
    (s.receive page).1.Coherent := by
  rcases s.receive_cases page with ⟨p, -, ha, -⟩ | ⟨e, link, -, hr⟩
  · exact coherent_absorb ha
  · rw [hr]
    exact coherent_of_failed rfl

theorem coherent_deliver (hs : s.state = .hasRows) (raw : RawRow) (rest : List RawRow) :
    (s.deliver raw rest).1.Coherent := by
  simp only [deliver]
  split
  · by_cases hr : rest = []
    · simpa only [hr, ↓reduceIte] using coherent_settle _
    · simp only [hr, ↓reduceIte, Coherent, hs]
      exact hr
  · exact coherent_of_failed rfl

theorem create_of_start {first : QueryPage} (h : start first = .ok s) :
    create first = (s, .ok ()) := by
  unfold start at h
  split at h
  · next hc => rw [hc, Except.ok.inj h]
  · simp at h

theorem exists_start {first : QueryPage} (h : (start first).isOk = true) :
    ∃ s, start first = .ok s := by
  cases hs : start first with
  | ok s => exact ⟨s, rfl⟩
  | error e => simp [hs, Except.isOk, Except.toBool] at h

theorem coherent_start {first : QueryPage} (h : start first = .ok s) : s.Coherent :=
  coherent_absorb (create_of_start h)

end Coherent

/-! ## States at rest -/

section AtRest

variable {s s' : RowStream}

theorem atRest_settle (s : RowStream) : s.settle.state.AtRest := by
  simp only [settle]
  split_ifs <;> trivial

theorem atRest_absorb {page : QueryPage} (h : s.absorb page = (s', .ok ())) :
    s'.state.AtRest := by
  obtain ⟨-, columns, -, rfl⟩ := absorb_of_ok h
  exact atRest_settle _

theorem atRest_deliver (hs : s.state = .hasRows) (raw : RawRow) (rest : List RawRow) :
    (s.deliver raw rest).1.state.AtRest := by
  simp only [deliver]
  split
  · split_ifs
    · exact atRest_settle _
    · rw [hs]
      trivial
  · trivial

theorem atRest_receive (s : RowStream) (page : Result QueryPage) :
    (s.receive page).1.state.AtRest := by
  rcases s.receive_cases page with ⟨p, -, ha, -⟩ | ⟨e, link, -, hr⟩
  · exact atRest_absorb ha
  · rw [hr]
    trivial

end AtRest

/-! ## Moves -/

/-- A move of a stream, with the calls of the source that belong to it. -/
inductive Move : RowStream → Transcript → RowStream → Prop where
  | deliver {s : RowStream} {raw : RawRow} {rest : List RawRow} (hs : s.state = .hasRows)
      (hb : s.buffer = raw :: rest) : Move s [] (s.deliver raw rest).1
  | ask {s : RowStream} {uri : String} (hs : s.state = .idle) (hn : s.nextUri = some uri) :
      Move s [.asked uri] (s.asking uri)
  | wait {s : RowStream} {uri : String} (hs : s.state = .fetching uri) : Move s [.waited uri] s
  | arrive {s : RowStream} {uri : String} (hs : s.state = .fetching uri)
      (page : Result QueryPage) : Move s [.arrived uri page] (s.receive page).1

/-- Moves in a row, with all calls that belong to them. -/
inductive Moves : RowStream → Transcript → RowStream → Prop where
  | refl (s : RowStream) : Moves s [] s
  | step {s s' s'' : RowStream} {t d : Transcript} (before : Moves s t s') (last : Move s' d s'') :
      Moves s (t ++ d) s''

theorem Move.moves {s s' : RowStream} {d : Transcript} (h : Move s d s') : Moves s d s' := by
  simpa using Moves.step (.refl s) h

theorem Moves.trans {s s' s'' : RowStream} {t d : Transcript} (h : Moves s t s')
    (h' : Moves s' d s'') : Moves s (t ++ d) s'' := by
  induction h' with
  | refl => simpa using h
  | step before last ih => simpa only [← List.append_assoc] using ih.step last

theorem Move.coherent {s s' : RowStream} {d : Transcript} (h : Move s d s') (hc : s.Coherent) :
    s'.Coherent := by
  cases h with
  | deliver hs hb => exact coherent_deliver hs _ _
  | ask hs hn => exact coherent_asking (hc.of_idle hs).1 _
  | wait hs => exact hc
  | arrive hs page => exact coherent_receive s page

theorem Moves.coherent {s s' : RowStream} {d : Transcript} (h : Moves s d s') (hc : s.Coherent) :
    s'.Coherent := by
  induction h with
  | refl => exact hc
  | step before last ih => exact last.coherent ih

/-- Only its reader closes a stream. -/
theorem Move.ne_closed {s s' : RowStream} {d : Transcript} (h : Move s d s') :
    s'.state ≠ .closed := by
  cases h with
  | deliver hs hb => exact (atRest_deliver hs _ _).ne_closed
  | ask hs hn => simp [asking]
  | wait hs => simp [hs]
  | arrive hs page => exact (atRest_receive s page).ne_closed

theorem Moves.ne_closed {s s' : RowStream} {d : Transcript} (h : Moves s d s')
    (hs : s.state ≠ .closed) : s'.state ≠ .closed := by
  cases h with
  | refl => exact hs
  | step before last => exact last.ne_closed

/-! ## Polls are moves -/

section Poll

variable (src : PageSource σ) {s : RowStream}

theorem moves_pollPage {uri : String} (hs : s.state = .fetching uri) (w : Recorded σ) :
    ∃ d, (pollPage src.recorded s w uri).2.1.transcript = w.transcript ++ d
      ∧ Moves s d (pollPage src.recorded s w uri).1 := by
  rcases h : src.poll w.source uri with ⟨v, _ | page⟩
  · refine ⟨[.waited uri], ?_, ?_⟩
    · simp [pollPage, src.recorded_poll_pending h]
    · simpa [pollPage, src.recorded_poll_pending h] using (Move.wait hs).moves
  · refine ⟨[.arrived uri page], ?_, ?_⟩
    · simp [pollPage, src.recorded_poll_ready h]
    · simpa [pollPage, src.recorded_poll_ready h] using (Move.arrive hs page).moves

theorem moves_pollNext (hc : s.Coherent) (hs : s.state = .idle) (w : Recorded σ) :
    ∃ d, (pollNext src.recorded s w).2.1.transcript = w.transcript ++ d
      ∧ Moves s d (pollNext src.recorded s w).1 := by
  obtain ⟨uri, hn⟩ := (hc.of_idle hs).2
  have ⟨d, hd, hm⟩ := moves_pollPage src (s := s.asking uri) rfl (src.recorded.fetch w uri)
  refine ⟨.asked uri :: d, ?_, ?_⟩
  · simp only [pollNext, hn]
    rw [hd]
    simp
  · simpa [pollNext, hn] using (Move.ask hs hn).moves.trans hm

theorem moves_pollItem (hc : s.Coherent) (w : Recorded σ) :
    ∃ d, (pollItem src.recorded s w).2.1.transcript = w.transcript ++ d
      ∧ Moves s d (pollItem src.recorded s w).1 := by
  unfold pollItem
  split
  · next hs hb => exact ⟨[], by simp, (Move.deliver hs hb).moves⟩
  · next hs hb => exact absurd hb (hc.buffer_ne_nil hs)
  · next hs => exact moves_pollNext src hc hs w
  · next hs => exact moves_pollPage src hs w
  all_goals exact ⟨[], by simp, .refl s⟩

/-- A run of a coherent stream is a list of moves, and its transcript is theirs. -/
theorem moves_run (hc : s.Coherent) (w : Recorded σ) (modes : List ReadMode) :
    ∃ d, (s.run src.recorded w modes).source.transcript = w.transcript ++ d
      ∧ Moves s d (s.run src.recorded w modes).stream := by
  refine run_invariant src.recorded
    (P := fun s' v => ∃ d, v.transcript = w.transcript ++ d ∧ Moves s d s') ?_ modes
    ⟨[], by simp, .refl s⟩
  rintro s' v ⟨d, hd, hm⟩
  have ⟨d', hd', hm'⟩ := moves_pollItem src (hm.coherent hc) v
  exact ⟨d ++ d', by rw [hd', hd, List.append_assoc], hm.trans hm'⟩

/-- A poll in a mode is a run of its own. -/
theorem moves_mode_poll (hc : s.Coherent) (w : Recorded σ) (mode : ReadMode) :
    ∃ d, (mode.poll src.recorded s w).2.1.transcript = w.transcript ++ d
      ∧ Moves s d (mode.poll src.recorded s w).1 :=
  moves_run src hc w [mode]

theorem coherent_pollItem (hc : s.Coherent) (w : σ) : (pollItem src s w).1.Coherent := by
  obtain ⟨d, -, hm⟩ := moves_pollItem src hc ⟨w, []⟩
  have := hm.coherent hc
  rwa [← pollItem_recorded src s ⟨w, []⟩]

theorem coherent_mode_poll (mode : ReadMode) (hc : s.Coherent) (w : σ) :
    (mode.poll src s w).1.Coherent :=
  mode.poll_invariant src (P := fun s _ => s.Coherent)
    (fun _ w hc => coherent_pollItem src hc w) hc

end Poll

end RowStream

end QueryClient
