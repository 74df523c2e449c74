/-!
# Small and capital letters

What the change of case does to the letters of ASCII; it leaves all other characters as they are.
-/

namespace QueryClient.Text

theorem toUpper_cases (c : Char) :
    ¬ (97 ≤ c.toNat ∧ c.toNat ≤ 122) ∧ c.toUpper = c
      ∨ (97 ≤ c.toNat ∧ c.toNat ≤ 122) ∧ c.toUpper.toNat + 32 = c.toNat := by
  have hlower : 'a'.val ≤ c.val ∧ c.val ≤ 'z'.val ↔ 97 ≤ c.toNat ∧ c.toNat ≤ 122 := by
    rw [UInt32.le_iff_toNat_le, UInt32.le_iff_toNat_le]
    rfl
  unfold Char.toUpper
  split
  · next h =>
    have hnat := hlower.1 h
    refine .inr ⟨hnat, ?_⟩
    have hsum : (c.val + ('A'.val - 'a'.val)).toNat = (c.toNat + 4294967264) % 4294967296 :=
      UInt32.toNat_add _ _
    change (c.val + ('A'.val - 'a'.val)).toNat + 32 = c.toNat
    rw [hsum]
    omega
  · next h => exact .inl ⟨mt hlower.2 h, rfl⟩

theorem toUpper_toUpper (c : Char) : c.toUpper.toUpper = c.toUpper := by
  rcases toUpper_cases c with ⟨-, h⟩ | ⟨hc, h⟩
  · rw [h, h]
  · rcases toUpper_cases c.toUpper with ⟨-, h'⟩ | ⟨hc', -⟩
    · exact h'
    · omega

/-- A character that becomes a capital letter is that letter already, or the small one. -/
theorem eq_or_of_toUpper {c u l : Char} (hl : l.toNat = u.toNat + 32) (h : c.toUpper = u) :
    c = l ∨ c = u := by
  rcases toUpper_cases c with ⟨-, hc⟩ | ⟨-, hc⟩
  · exact .inr (hc.symm.trans h)
  · exact .inl (Char.toNat_inj.1 (by rw [← hc, h, hl]))

theorem toLower_not_lt (c : Char) : ¬ c.toLower < c := by
  rw [Char.lt_def, UInt32.lt_iff_toNat_lt, Nat.not_lt]
  unfold Char.toLower
  split
  · next h =>
    have hle : c.val.toNat ≤ 90 := UInt32.le_iff_toNat_le.1 h.2
    rw [UInt32.toNat_add, Nat.mod_eq_of_lt]
    · exact Nat.le_add_right _ _
    · exact Nat.lt_of_le_of_lt (Nat.add_le_add_right hle _) (by decide)
  · exact Nat.le_refl _

end QueryClient.Text
