import QueryClient.Stream.Poll

/-!
# Readers of streams

A reader is a way to poll a stream: for its rows, or for the counters of its pages as well. Every
event but a failure and the end brings the end nearer: it uses up some of the source, or it takes a
row off the buffer. So waiting for an item and reading to the end both come to an end themselves.
-/

namespace QueryClient

/-- Whether a stream and its source are nearer to the end than before. -/
def Nearer {σ : Type} (src : PageSource σ) (s' : RowStream) (w' : σ) (s : RowStream) (w : σ) : Prop :=
  src.remaining w' < src.remaining w ∨
    src.remaining w' ≤ src.remaining w ∧ s'.buffer.length < s.buffer.length

structure StreamReader (σ α : Type) (src : PageSource σ) where
  poll : RowStream → σ → RowStream × σ × StreamEvent α
  nearer : ∀ s w, ((poll s w).2.2 = .pending ∨ ∃ a, (poll s w).2.2 = .item a) →
    Nearer src (poll s w).1 (poll s w).2.1 s w

namespace StreamReader

variable {σ α : Type} {src : PageSource σ}

theorem lex_of_nearer {s' s : RowStream} {w' w : σ} (h : Nearer src s' w' s w) :
    Prod.Lex (· < ·) (· < ·) (src.remaining w', s'.buffer.length)
      (src.remaining w, s.buffer.length) := by
  rcases h with h | ⟨h1, h2⟩
  · exact .left _ _ h
  · rcases Nat.lt_or_eq_of_le h1 with h | h
    · exact .left _ _ h
    · rw [h]; exact .right _ h2

/-- Polls until there is an item, a failure or the end. -/
def next (r : StreamReader σ α src) (s : RowStream) (w : σ) : RowStream × σ × StreamEvent α :=
  match h : r.poll s w with
  | (s', w', .pending) =>
    have : Nearer src s' w' s w := by simpa [h] using r.nearer s w (by simp [h])
    r.next s' w'
  | (s', w', .item a) => (s', w', .item a)
  | (s', w', .failure e) => (s', w', .failure e)
  | (s', w', .over) => (s', w', .over)
termination_by (src.remaining w, s.buffer.length)
decreasing_by exact lex_of_nearer this

/-- All items up to the end, or up to a failure. -/
def readAll (r : StreamReader σ α src) (s : RowStream) (w : σ) :
    RowStream × σ × List α × Option Error :=
  match h : r.poll s w with
  | (s', w', .pending) =>
    have : Nearer src s' w' s w := by simpa [h] using r.nearer s w (by simp [h])
    r.readAll s' w'
  | (s', w', .item a) =>
    have : Nearer src s' w' s w := by simpa [h] using r.nearer s w (by simp [h])
    let (s', w', as, e) := r.readAll s' w'
    (s', w', a :: as, e)
  | (s', w', .failure e) => (s', w', [], some e)
  | (s', w', .over) => (s', w', [], none)
termination_by (src.remaining w, s.buffer.length)
decreasing_by all_goals exact lex_of_nearer this

end StreamReader

namespace RowStream

variable {σ : Type} (src : PageSource σ)

/-- A page gives its counters, never a row. -/
theorem pollPage_ne_row (s : RowStream) (w : σ) (uri : String) (r : Row) :
    (pollPage src s w uri).2.2 ≠ .item (.row r) := by
  unfold pollPage
  split
  · simp
  · next page _ =>
    have := receive_ne_row s page r
    cases h : (s.receive page).2 <;> simp_all [StreamEvent.ofResult]

theorem pollNext_ne_row (s : RowStream) (w : σ) (r : Row) :
    (pollNext src s w).2.2 ≠ .item (.row r) := by
  unfold pollNext
  split
  · exact pollPage_ne_row src _ _ _ r
  · simp

/-- A row comes off the buffer, and the source is not asked for it. -/
theorem pollItem_of_row (s : RowStream) (w : σ) (r : Row)
    (h : (pollItem src s w).2.2 = .item (.row r)) :
    (pollItem src s w).2.1 = w ∧ (pollItem src s w).1.buffer.length < s.buffer.length := by
  unfold pollItem at h ⊢
  split at h
  · next raw rest hb =>
    simp only [deliver] at h ⊢
    split at h
    · next row hd =>
      simp only [hb, true_and]
      split <;> simp [settle]
    · simp [StreamEvent.ofResult] at h
  · exact absurd h (pollNext_ne_row src s w r)
  · exact absurd h (pollNext_ne_row src s w r)
  · exact absurd h (pollPage_ne_row src s w _ r)
  all_goals simp at h

theorem nearer_pollItem (s : RowStream) (w : σ)
    (h : (pollItem src s w).2.2 = .pending ∨ ∃ a, (pollItem src s w).2.2 = .item a) :
    Nearer src (pollItem src s w).1 (pollItem src s w).2.1 s w := by
  rcases h with h | ⟨c | c, h⟩
  · exact .inl (remaining_pollItem_lt src s w (.inl h))
  · obtain ⟨hw, hb⟩ := pollItem_of_row src s w c h
    exact .inr ⟨Nat.le_of_eq (congrArg src.remaining hw), hb⟩
  · exact .inl (remaining_pollItem_lt src s w (.inr ⟨c, h⟩))

theorem nearer_poll (s : RowStream) (w : σ)
    (h : (poll src s w).2.2 = .pending ∨ ∃ a, (poll src s w).2.2 = .item a) :
    Nearer src (poll src s w).1 (poll src s w).2.1 s w := by
  fun_induction poll src s w with
  | case1 s w s' w' c hp hlt ih =>
    rcases ih h with h | ⟨h, _⟩
    · exact .inl (Nat.lt_trans h hlt)
    · exact .inl (Nat.lt_of_le_of_lt h hlt)
  | case2 s w s' w' r hp => simpa [hp] using nearer_pollItem src s w (.inr ⟨_, by rw [hp]⟩)
  | case3 s w s' w' e hp => simp at h
  | case4 s w s' w' hp => simpa [hp] using nearer_pollItem src s w (.inl (by rw [hp]))
  | case5 s w s' w' hp => simp at h

/-- Reads rows alone. -/
def rows : StreamReader σ Row src where
  poll := poll src
  nearer := nearer_poll src

/-- Reads rows, and the counters of every page that is fetched. -/
def items : StreamReader σ StreamItem src where
  poll := pollItem src
  nearer := nearer_pollItem src

end RowStream

end QueryClient
