import QueryClient.Text.Blank

/-!
# Where a text is cut

A text is cut where the first character stands that does not belong to its start
(`takeWhile_append_eq_left`, `dropWhile_append_eq_right`), and what is trimmed stands before a visible
end (`dropEndWhile_append`).
-/

namespace QueryClient.Text

section Cut

variable {p : Char → Bool} {s : List Char}

theorem takeWhile_eq_nil (h : ∀ c ∈ s.head?, p c = false) : s.takeWhile p = [] := by
  cases s with
  | nil => rfl
  | cons c s => simp [h c rfl]

theorem dropWhile_eq_self (h : ∀ c ∈ s.head?, p c = false) : s.dropWhile p = s := by
  cases s with
  | nil => rfl
  | cons c s => simp [h c rfl]

theorem takeWhile_append_eq_left (h : ∀ c ∈ s, p c = true) {t : List Char}
    (ht : ∀ c ∈ t.head?, p c = false) : (s ++ t).takeWhile p = s := by
  rw [List.takeWhile_append_of_pos h, takeWhile_eq_nil ht, List.append_nil]

theorem dropWhile_append_eq_right (h : ∀ c ∈ s, p c = true) {t : List Char}
    (ht : ∀ c ∈ t.head?, p c = false) : (s ++ t).dropWhile p = t := by
  rw [List.dropWhile_append_of_pos h, dropWhile_eq_self ht]

theorem takeWhile_append_cons (h : ∀ c ∈ s, p c = true) {d : Char} (hd : p d = false)
    (t : List Char) : (s ++ d :: t).takeWhile p = s :=
  takeWhile_append_eq_left h (by simpa using hd)

theorem dropWhile_append_cons (h : ∀ c ∈ s, p c = true) {d : Char} (hd : p d = false)
    (t : List Char) : (s ++ d :: t).dropWhile p = d :: t :=
  dropWhile_append_eq_right h (by simpa using hd)

theorem dropEndWhile_eq_self (h : ∀ c ∈ s.getLast?, p c = false) : dropEndWhile p s = s := by
  rw [dropEndWhile, dropWhile_eq_self (by rwa [List.head?_reverse]), List.reverse_reverse]

theorem dropEndWhile_append (h : ∀ c ∈ s, p c = false) (rest : List Char) :
    dropEndWhile p (s ++ rest) = s ++ dropEndWhile p rest := by
  have hs : s.reverse.dropWhile p = s.reverse :=
    dropWhile_eq_self fun c hc => h c (List.mem_reverse.1 (List.mem_of_mem_head? hc))
  unfold dropEndWhile
  rw [List.reverse_append, List.dropWhile_append]
  split
  · next hall =>
    have hnil : rest.reverse.dropWhile p = [] := by simpa using hall
    simp [hs, hnil]
  · simp

theorem dropEndWhile_append_cons {c : Char} (h : p c = false) (s t : List Char) :
    dropEndWhile p (s ++ c :: t) = s ++ dropEndWhile p (c :: t) := by
  have hstop : ((c :: t).reverse.dropWhile p).isEmpty = false := by
    rw [List.reverse_cons, List.dropWhile_append]
    split <;> simp [h]
  simp only [dropEndWhile, List.reverse_append, List.dropWhile_append, hstop, Bool.false_eq_true,
    if_false, List.reverse_reverse]

theorem trimWhile_eq_self (h : ∀ c ∈ s, p c = false) : trimWhile p s = s := by
  rw [trimWhile, dropWhile_eq_self fun c hc => h c (List.mem_of_mem_head? hc),
    dropEndWhile_eq_self fun c hc => h c (List.mem_of_getLast? hc)]

theorem dropEndWhile_prefix (p : Char → Bool) (s : List Char) : dropEndWhile p s <+: s := by
  have h := List.reverse_prefix.2 (List.dropWhile_suffix (p := p) (l := s.reverse))
  rwa [List.reverse_reverse] at h

end Cut

theorem not_of_mem_splitOnP {α : Type} {p : α → Bool} {s piece : List α} (h : piece ∈ s.splitOnP p) :
    ∀ c ∈ piece, p c = false := by
  induction s generalizing piece with
  | nil =>
    rw [List.splitOnP_nil, List.mem_singleton] at h
    rw [h]
    exact fun c hc => absurd hc List.not_mem_nil
  | cons d s ih =>
    rw [List.splitOnP_cons_eq_if_modifyHead] at h
    split at h
    · rcases List.mem_cons.1 h with rfl | h
      · exact fun c hc => absurd hc List.not_mem_nil
      · exact ih h
    · next hd =>
      cases hs : s.splitOnP p with
      | nil => exact absurd hs (List.splitOnP_ne_nil p s)
      | cons first rest =>
        rw [hs, List.modifyHead_cons] at h
        rw [hs] at ih
        rcases List.mem_cons.1 h with rfl | h
        · intro c hc
          rcases List.mem_cons.1 hc with rfl | hc
          · simpa using hd
          · exact ih List.mem_cons_self c hc
        · exact ih (List.mem_cons_of_mem _ h)

/-- What is decided of every character of a text, rather than of every character. -/
theorem of_mem_of_all {P : Char → Prop} [DecidablePred P] {s : List Char}
    (h : (s.all fun c => decide (P c)) = true) {c : Char} (hc : c ∈ s) : P c :=
  of_decide_eq_true (List.all_eq_true.1 h c hc)

theorem mem_intercalate {sep c : Char} {pieces : List (List Char)}
    (h : c ∈ [sep].intercalate pieces) : c = sep ∨ ∃ piece ∈ pieces, c ∈ piece := by
  induction pieces with
  | nil => simp at h
  | cons piece rest ih =>
    cases rest with
    | nil => exact .inr ⟨piece, List.mem_cons_self, by simpa using h⟩
    | cons next rest =>
      rw [List.intercalate_cons_cons, List.mem_append, List.mem_append, List.mem_singleton] at h
      rcases h with (h | h) | h
      · exact .inr ⟨piece, List.mem_cons_self, h⟩
      · exact .inl h
      · exact (ih h).imp_right fun ⟨q, hq, hc⟩ => ⟨q, List.mem_cons_of_mem _ hq, hc⟩

end QueryClient.Text
