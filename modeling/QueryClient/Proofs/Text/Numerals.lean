import QueryClient.Proofs.Text.Decimal

/-!
# Numerals

The texts of numbers as grammars: one or more digits, with an optional sign in front. Leading zeros
do not matter, and a minus stands only before integers. A reader takes the numerals of the numbers
within its bounds and nothing else (`readNat?_eq_some_iff`, `readInt?_eq_some_iff`), so it also takes
what numbers are written as (`isInteger_signed`).
-/

namespace QueryClient.Text.Decimal

/-- A non-empty row of digits. -/
structure IsDigits (ds : List Char) : Prop where
  ne_nil : ds ≠ []
  isDigit : ∀ c ∈ ds, c.isDigit = true

/-- The numerals of a natural number: digits, with an optional plus. -/
inductive IsNatural : List Char → Nat → Prop
  | plain {ds : List Char} (h : IsDigits ds) : IsNatural ds (Nat.ofDigitChars 10 ds 0)
  | plus {ds : List Char} (h : IsDigits ds) : IsNatural ('+' :: ds) (Nat.ofDigitChars 10 ds 0)

/-- The numerals of an integer: those of natural numbers, and digits after a minus. -/
inductive IsInteger : List Char → Int → Prop
  | natural {s : List Char} {n : Nat} (h : IsNatural s n) : IsInteger s n
  | minus {ds : List Char} (h : IsDigits ds) : IsInteger ('-' :: ds) (-Nat.ofDigitChars 10 ds 0)

section Digits

variable {acc n : Nat} {s : List Char}

theorem digit?_eq_some_iff {c : Char} {d : Nat} :
    digit? c = some d ↔ c.isDigit = true ∧ d = c.toNat - '0'.toNat := by
  have hrange : c.isDigit = true ↔ '0' ≤ c ∧ c ≤ '9' := by
    rw [Char.isDigit, Bool.and_eq_true, decide_eq_true_iff, decide_eq_true_iff]
    rfl
  rw [hrange, digit?, Option.ite_none_right_eq_some, Option.some.injEq]
  exact and_congr_right' eq_comm

theorem valueFrom?_eq_some_iff :
    valueFrom? acc s = some n ↔ (∀ c ∈ s, c.isDigit = true) ∧ n = Nat.ofDigitChars 10 s acc := by
  induction s generalizing acc with
  | nil => exact ⟨fun h => ⟨by simp, (Option.some.inj h).symm⟩, fun h => congrArg some h.2.symm⟩
  | cons c s ih =>
    rw [List.forall_mem_cons, Nat.ofDigitChars, List.foldl_cons, valueFrom?]
    split
    · next d hd =>
      obtain ⟨hc, rfl⟩ := digit?_eq_some_iff.1 hd
      rw [ih, and_iff_right hc]
      rfl
    · next hd =>
      have hc : c.isDigit ≠ true := by
        intro hc
        rw [digit?_eq_some_iff.2 ⟨hc, rfl⟩] at hd
        cases hd
      simp [hc]

theorem value?_eq_some_iff_isDigits :
    value? s = some n ↔ IsDigits s ∧ n = Nat.ofDigitChars 10 s 0 := by
  rw [value?_eq_some_iff, valueFrom?_eq_some_iff, ← and_assoc]
  exact and_congr_left' ⟨fun h => ⟨h.1, h.2⟩, fun h => ⟨h.1, h.2⟩⟩

theorem isDigits_iff : IsDigits s ↔ s ≠ [] ∧ s.all Char.isDigit = true := by
  rw [List.all_eq_true]
  exact ⟨fun h => ⟨h.1, h.2⟩, fun h => ⟨h.1, h.2⟩⟩

instance (s : List Char) : Decidable (IsDigits s) :=
  decidable_of_iff _ isDigits_iff.symm

theorem IsDigits.ne_cons (h : IsDigits s) {c : Char} (hc : c.isDigit = false)
    (rest : List Char) : s ≠ c :: rest := by
  rintro rfl
  rw [h.isDigit c List.mem_cons_self] at hc
  cases hc

end Digits

section Bounded

variable {acc max n : Nat} {s : List Char}

theorem readDigits_eq_ok_iff (hacc : acc ≤ max) :
    readDigits max acc s = .ok n ↔ valueFrom? acc s = some n ∧ n ≤ max := by
  refine ⟨fun h => ⟨?_, le_of_readDigits h hacc⟩, fun h => readDigits_of_value h.1 h.2⟩
  induction s generalizing acc with
  | nil => exact congrArg some (Except.ok.inj h)
  | cons c s ih =>
    rw [readDigits] at h
    rw [valueFrom?]
    split at h
    · cases h
    · next d hd =>
      split_ifs at h with hle
      simp only [hd]
      exact ih hle h

theorem readDigits_zero_eq_ok_iff (hs : s ≠ []) :
    readDigits max 0 s = .ok n ↔ (IsDigits s ∧ n = Nat.ofDigitChars 10 s 0) ∧ n ≤ max := by
  rw [readDigits_eq_ok_iff (Nat.zero_le max), ← value?_eq_some_iff_isDigits, value?_eq_some_iff,
    and_iff_right hs]

theorem readNat_eq_ok_iff : readNat max s = .ok n ↔ IsNatural s n ∧ n ≤ max := by
  constructor
  · intro h
    unfold readNat at h
    split at h
    · cases h
    · obtain ⟨⟨hds, rfl⟩, hle⟩ := (readDigits_zero_eq_ok_iff (List.cons_ne_nil _ _)).1 h
      exact ⟨.plus hds, hle⟩
    · next hs _ =>
      obtain ⟨⟨hds, rfl⟩, hle⟩ := (readDigits_zero_eq_ok_iff hs).1 h
      exact ⟨.plain hds, hle⟩
  · rintro ⟨h, hle⟩
    cases h with
    | plain hds =>
      have hread := (readDigits_zero_eq_ok_iff hds.ne_nil).2 ⟨⟨hds, rfl⟩, hle⟩
      unfold readNat
      split
      · exact absurd rfl hds.ne_nil
      · exact absurd rfl (hds.ne_cons rfl _)
      · exact hread
    | plus hds =>
      have hread := (readDigits_zero_eq_ok_iff hds.ne_nil).2 ⟨⟨hds, rfl⟩, hle⟩
      obtain ⟨c, ds, rfl⟩ := List.exists_cons_of_ne_nil hds.ne_nil
      exact hread

theorem readNat?_eq_some_iff : readNat? max s = some n ↔ IsNatural s n ∧ n ≤ max := by
  rw [← readNat_eq_ok_iff, readNat?]
  cases readNat max s <;> simp [Except.toOption]

end Bounded

/-- The value of digits, as an integer. -/
theorem intValue_eq_some_iff {s : List Char} {n : Int} :
    (do let m ← value? s; pure (m : Int) : Option Int) = some n
      ↔ IsDigits s ∧ n = Nat.ofDigitChars 10 s 0 := by
  constructor
  · intro h
    obtain ⟨m, hm, h⟩ := Option.bind_eq_some_iff.1 h
    obtain ⟨hds, rfl⟩ := value?_eq_some_iff_isDigits.1 hm
    exact ⟨hds, (Option.some.inj h).symm⟩
  · rintro ⟨hds, rfl⟩
    rw [value?_eq_some_iff_isDigits.2 ⟨hds, rfl⟩]
    rfl

theorem readInt?_eq_some_iff {min max n : Int} {s : List Char} :
    readInt? min max s = some n ↔ IsInteger s n ∧ min ≤ n ∧ n ≤ max := by
  unfold readInt?
  rw [Option.filter_eq_some_iff, decide_eq_true_iff]
  refine and_congr_left' ⟨fun h => ?_, fun h => ?_⟩
  · split at h <;> obtain ⟨m, hm, rfl⟩ := Option.map_eq_some_iff.1 h <;>
      obtain ⟨hds, rfl⟩ := intValue_eq_some_iff.1 hm
    · exact .minus hds
    · exact .natural (.plus hds)
    · exact .natural (.plain hds)
  · cases h with
    | natural h =>
      cases h with
      | plain hds =>
        split
        · exact absurd rfl (hds.ne_cons rfl _)
        · exact absurd rfl (hds.ne_cons rfl _)
        · rw [intValue_eq_some_iff.2 ⟨hds, rfl⟩, Option.map_some]
      | plus hds => simp only [intValue_eq_some_iff.2 ⟨hds, rfl⟩, Option.map_some]
    | minus hds => simp only [intValue_eq_some_iff.2 ⟨hds, rfl⟩, Option.map_some]

/-! ## What numbers are written as -/

theorem isDigits_digits (n : Nat) : IsDigits (digits n) :=
  ⟨digits_ne_nil n, fun _ => isDigit_of_mem_digits⟩

theorem ofDigitChars_digits (n : Nat) : Nat.ofDigitChars 10 (digits n) 0 = n :=
  Nat.ofDigitChars_toDigits (by decide) (by decide)

theorem isNatural_digits (n : Nat) : IsNatural (digits n) n := by
  have h := IsNatural.plain (isDigits_digits n)
  rwa [ofDigitChars_digits] at h

theorem isInteger_signed (n : Int) : IsInteger (signed n) n := by
  cases n with
  | ofNat n => exact .natural (isNatural_digits n)
  | negSucc n =>
    have h := IsInteger.minus (isDigits_digits (n + 1))
    rwa [ofDigitChars_digits] at h

end QueryClient.Text.Decimal
