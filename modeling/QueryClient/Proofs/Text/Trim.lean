import QueryClient.Proofs.Text.Split
import Mathlib.Data.List.DropRight
import Mathlib.Data.List.TakeWhile

/-!
# Trimmed texts

Trimming takes away what a text has of a class at its ends, and no more: what is left has no
character of the class at either end (`isTrimmed_trimWhile`), and it is the only part of the text
between characters of the class of which this is true (`trimWhile_append`).
-/

namespace QueryClient.Text

variable {p : Char → Bool} {l s r : List Char}

/-- Whether a text has no character of a class at either end. -/
structure IsTrimmed (p : Char → Bool) (s : List Char) : Prop where
  head : ∀ c ∈ s.head?, p c = false
  last : ∀ c ∈ s.getLast?, p c = false

theorem isTrimmed_iff : IsTrimmed p s
    ↔ (s.head?.all fun c => !p c) = true ∧ (s.getLast?.all fun c => !p c) = true := by
  simp only [Option.all_eq_true, Bool.not_eq_true']
  exact ⟨fun h => ⟨h.head, h.last⟩, fun h => ⟨h.1, h.2⟩⟩

instance (p : Char → Bool) (s : List Char) : Decidable (IsTrimmed p s) :=
  decidable_of_iff _ isTrimmed_iff.symm

/-- A text is trimmed whose first and last characters are not of the class. -/
theorem isTrimmed_cons_append {c d : Char} (hc : p c = false) (hd : p d = false) (s : List Char) :
    IsTrimmed p (c :: (s ++ [d])) := by
  rw [isTrimmed_iff, ← List.cons_append, List.getLast?_concat]
  simp [hc, hd]

theorem head?_dropWhile (p : Char → Bool) (s : List Char) :
    ∀ c ∈ (s.dropWhile p).head?, p c = false := by
  intro c hc
  have h := List.head?_dropWhile_not p s
  rw [Option.mem_def.1 hc] at h
  exact h

theorem dropEndWhile_append_of_pos (h : ∀ c ∈ r, p c = true) :
    dropEndWhile p (s ++ r) = dropEndWhile p s := by
  have hr : ∀ c ∈ r.reverse, p c = true := fun c hc => h c (List.mem_reverse.1 hc)
  rw [dropEndWhile, List.reverse_append, List.dropWhile_append_of_pos hr, dropEndWhile]

theorem trimWhile_append (hl : ∀ c ∈ l, p c = true) (h : IsTrimmed p s)
    (hr : ∀ c ∈ r, p c = true) : trimWhile p (l ++ s ++ r) = s := by
  rw [trimWhile, List.append_assoc, List.dropWhile_append_of_pos hl]
  cases s with
  | nil =>
    rw [List.nil_append, List.dropWhile_eq_nil_iff.2 hr]
    rfl
  | cons c s =>
    have hc : p c = false := h.head c rfl
    rw [List.cons_append, List.dropWhile_cons_of_neg (by simp [hc]), ← List.cons_append,
      dropEndWhile_append_of_pos hr, dropEndWhile_eq_self h.last]

theorem exists_dropEndWhile (p : Char → Bool) (s : List Char) :
    ∃ r, (∀ c ∈ r, p c = true) ∧ s = dropEndWhile p s ++ r :=
  ⟨s.rtakeWhile p, fun _ => List.mem_rtakeWhile_imp, List.rdropWhile_append_rtakeWhile.symm⟩

theorem exists_trimWhile (p : Char → Bool) (s : List Char) :
    ∃ l r, (∀ c ∈ l, p c = true) ∧ (∀ c ∈ r, p c = true) ∧ s = l ++ trimWhile p s ++ r := by
  obtain ⟨r, hr, hs⟩ := exists_dropEndWhile p (s.dropWhile p)
  refine ⟨s.takeWhile p, r, fun _ => List.mem_takeWhile_imp, hr, ?_⟩
  rw [trimWhile, List.append_assoc, ← hs, List.takeWhile_append_dropWhile]

theorem exists_trim (s : List Char) : ∃ l r, (∀ c ∈ l, isBlank c = true)
    ∧ (∀ c ∈ r, isBlank c = true) ∧ s = l ++ trim s ++ r :=
  exists_trimWhile isBlank s

theorem isTrimmed_trimWhile (p : Char → Bool) (s : List Char) : IsTrimmed p (trimWhile p s) where
  head c hc := by
    obtain ⟨r, hr⟩ := dropEndWhile_prefix p (s.dropWhile p)
    refine head?_dropWhile p s c ?_
    rw [← hr, List.head?_append_of_ne_nil]
    · exact hc
    · rintro hnil
      rw [trimWhile, hnil] at hc
      cases hc
  last c hc := by
    rw [trimWhile, dropEndWhile, List.getLast?_reverse] at hc
    exact head?_dropWhile p _ c hc

theorem trimWhile_of_isTrimmed (h : IsTrimmed p s) : trimWhile p s = s := by
  rw [trimWhile, dropWhile_eq_self h.head, dropEndWhile_eq_self h.last]

end QueryClient.Text
