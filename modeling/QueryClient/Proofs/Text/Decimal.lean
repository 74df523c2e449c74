import QueryClient.Text.Decimal
import Mathlib.Algebra.Group.Nat.Defs
import Mathlib.Data.List.Induction

/-!
# Numbers and their digits

The digits of a number are read as the number (`value?_digits`, `readNat?_digits`). Digits of a given
number, with zeros in front, are written in one way only (`value?_padded`, `padded_of_valueFrom?`).
-/

namespace QueryClient.Text.Decimal

theorem digit?_digitChar {n : Nat} (h : n < 10) : digit? (Nat.digitChar n) = some n := by
  revert n
  decide

theorem isDigit_of_mem_digits {n : Nat} {c : Char} (h : c ∈ digits n) : c.isDigit = true :=
  Nat.isDigit_of_mem_toDigits (by omega) (by omega) h

theorem digits_ne_nil (n : Nat) : digits n ≠ [] :=
  Nat.toDigits_ne_nil

section Value

variable {acc n : Nat} {s : List Char}

theorem valueFrom?_append (s t : List Char) :
    valueFrom? acc (s ++ t) = (valueFrom? acc s).bind (valueFrom? · t) := by
  induction s generalizing acc with
  | nil => rfl
  | cons c s ih =>
    simp only [List.cons_append, valueFrom?]
    split
    · exact ih
    · rfl

theorem valueFrom?_digits (n : Nat) : valueFrom? 0 (digits n) = some n := by
  induction n using Nat.strongRecOn with
  | ind n ih =>
    unfold digits
    rw [Nat.toDigits_eq_if (by omega)]
    split
    · next h => simp [valueFrom?, digit?_digitChar h]
    · next h =>
      have hlast : digit? (n % 10).digitChar = some (n % 10) := digit?_digitChar (by omega)
      have hrest := ih (n / 10) (by omega)
      rw [valueFrom?_append]
      unfold digits at hrest
      simp only [hrest, Option.bind_some, valueFrom?, hlast]
      congr 1
      omega

theorem value?_digits (n : Nat) : value? (digits n) = some n := by
  have h := valueFrom?_digits n
  cases hd : digits n with
  | nil => exact absurd hd (digits_ne_nil n)
  | cons c s => rwa [hd] at h

theorem le_of_valueFrom? (h : valueFrom? acc s = some n) : acc ≤ n := by
  induction s generalizing acc with
  | nil => exact Nat.le_of_eq (Option.some.inj h)
  | cons c s ih =>
    unfold valueFrom? at h
    split at h
    · have := ih h
      omega
    · cases h

theorem readDigits_of_value {max : Nat} (h : valueFrom? acc s = some n) (hmax : n ≤ max) :
    readDigits max acc s = .ok n := by
  induction s generalizing acc with
  | nil => exact congrArg Except.ok (Option.some.inj h)
  | cons c s ih =>
    unfold valueFrom? at h
    split at h
    · next d hd =>
      have hle := le_of_valueFrom? h
      simp only [readDigits, hd, if_pos (Nat.le_trans hle hmax), ih h]
    · cases h

theorem readNat?_digits {max : Nat} (h : n ≤ max) : readNat? max (digits n) = some n := by
  have hread : readNat max (digits n) = .ok n := by
    have hdigits := readDigits_of_value (valueFrom?_digits n) h
    unfold readNat
    split
    · next hnil => exact absurd hnil (digits_ne_nil n)
    · next c rest hplus =>
      have hc : '+' ∈ digits n := hplus ▸ List.mem_cons_self
      exact absurd (isDigit_of_mem_digits hc) (by decide)
    · exact hdigits
  rw [readNat?, hread]
  rfl

end Value

theorem eq_digitChar_of_digit? {c : Char} {d : Nat} (h : digit? c = some d) :
    d < 10 ∧ c = Nat.digitChar d := by
  unfold digit? at h
  split at h
  · next hc =>
    have hlow : 0x30 ≤ c.toNat := hc.1
    have hhigh : c.toNat ≤ 0x39 := hc.2
    have hd : c.toNat - 0x30 = d := Option.some.inj h
    have hall : ∀ n < 10, Char.ofNat (n + 0x30) = Nat.digitChar n := by decide
    refine ⟨by omega, ?_⟩
    rw [← hall d (by omega), ← hd, Nat.sub_add_cancel hlow, Char.ofNat_toNat]
  · cases h

theorem value?_eq_some_iff {s : List Char} {n : Nat} :
    value? s = some n ↔ s ≠ [] ∧ valueFrom? 0 s = some n := by
  cases s with
  | nil => simp [value?]
  | cons c s => simp [value?]

theorem valueFrom?_append_singleton {acc n : Nat} {s : List Char} {c : Char}
    (h : valueFrom? acc (s ++ [c]) = some n) :
    ∃ m d, valueFrom? acc s = some m ∧ d < 10 ∧ c = Nat.digitChar d ∧ n = 10 * m + d := by
  rw [valueFrom?_append] at h
  obtain ⟨m, hm, h⟩ := Option.bind_eq_some_iff.1 h
  unfold valueFrom? at h
  split at h
  · next d hd =>
    obtain ⟨hlt, hc⟩ := eq_digitChar_of_digit? hd
    exact ⟨m, d, hm, hlt, hc, (Option.some.inj h).symm⟩
  · cases h

/-! ## Numbers of a width -/

section Padded

variable {w n : Nat}

theorem padded_succ (hw : 0 < w) (n : Nat) :
    padded (w + 1) n = padded w (n / 10) ++ [(n % 10).digitChar] := by
  unfold padded digits
  rw [Nat.toDigits_eq_if (n := n) (by omega)]
  split
  · next hn =>
    have hzero : n / 10 = 0 := by omega
    obtain ⟨w, rfl⟩ : ∃ v, w = v + 1 := ⟨w - 1, by omega⟩
    have hdigits : Nat.toDigits 10 0 = ['0'] := rfl
    simp [hzero, hdigits, Nat.mod_eq_of_lt hn, List.replicate_succ']
  · simp

theorem length_padded (hw : 0 < w) (h : n < 10 ^ w) : (padded w n).length = w := by
  have hlen : (digits n).length ≤ w := (Nat.length_toDigits_le_iff (by omega) hw).2 h
  simp only [padded, List.length_append, List.length_replicate]
  omega

theorem isDigit_of_mem_padded {c : Char} (h : c ∈ padded w n) : c.isDigit = true := by
  rcases List.mem_append.1 h with h | h
  · rw [List.eq_of_mem_replicate h]
    rfl
  · exact isDigit_of_mem_digits h

theorem padded_ne_nil (w n : Nat) : padded w n ≠ [] :=
  List.append_ne_nil_of_right_ne_nil _ (digits_ne_nil n)

theorem valueFrom?_zeros (k : Nat) : valueFrom? 0 (List.replicate k '0') = some 0 := by
  induction k with
  | zero => rfl
  | succ k ih => simpa [List.replicate_succ, valueFrom?, digit?] using ih

theorem value?_padded (w n : Nat) : value? (padded w n) = some n := by
  refine value?_eq_some_iff.2 ⟨padded_ne_nil w n, ?_⟩
  rw [padded, valueFrom?_append, valueFrom?_zeros]
  exact valueFrom?_digits n

theorem lt_of_valueFrom? {s : List Char} (h : valueFrom? 0 s = some n) : n < 10 ^ s.length := by
  induction s using List.reverseRecOn generalizing n with
  | nil =>
    obtain rfl := Option.some.inj h
    decide
  | append_singleton s c ih =>
    obtain ⟨m, d, hm, hd, -, rfl⟩ := valueFrom?_append_singleton h
    have := ih hm
    rw [List.length_append, List.length_singleton, Nat.pow_succ]
    omega

/-- Digits are those of their value, with zeros in front. -/
theorem padded_of_valueFrom? {s : List Char} (hne : s ≠ []) (h : valueFrom? 0 s = some n) :
    padded s.length n = s := by
  induction s using List.reverseRecOn generalizing n with
  | nil => exact absurd rfl hne
  | append_singleton s c ih =>
    obtain ⟨m, d, hm, hd, rfl, rfl⟩ := valueFrom?_append_singleton h
    rcases List.eq_nil_or_concat s with rfl | ⟨t, b, ht⟩
    · obtain rfl : 0 = m := Option.some.inj hm
      simp [padded, digits, Nat.toDigits_of_lt_base hd]
    · have hs : s ≠ [] := by simp [ht]
      have hdiv : (10 * m + d) / 10 = m := by omega
      have hmod : (10 * m + d) % 10 = d := by omega
      rw [List.length_append, List.length_singleton, padded_succ (List.length_pos_iff.2 hs), hdiv,
        hmod, ih hs hm]

end Padded

end QueryClient.Text.Decimal
