import QueryClient.Proofs.Value.Typing
import QueryClient.Value.Kind

/-!
# Values as scalars

What a value is when it is read as a scalar type (`Scalar.Reads`): a number keeps its value, whatever
the width that it is read into, and every value but a null is read as its text. Nothing else is read
(`Scalar.read_eq_ok_iff`), and every refusal is a conversion error that says why
(`Scalar.read_null`, `Scalar.read_of_not_pairs`).
-/

namespace QueryClient

/-- What a value is when it is read as a scalar type. -/
inductive Scalar.Reads : (s : Scalar) → Value → s.Carrier → Prop
  | int64 (n : Int64) : Reads .int64 (.int64 n) n
  | int32 {n : Int64} {m : Int32} (h : m.toInt = n.toInt) : Reads .int32 (.int64 n) m
  | uint64 (n : UInt64) : Reads .uint64 (.uint64 n) n
  | uint32 {n : UInt64} {m : UInt32} (h : m.toNat = n.toNat) : Reads .uint32 (.uint64 n) m
  | float64 (x : Binary64) : Reads .float64 (.float64 x) x
  | string {v : Value} (h : v ≠ .null) : Reads .string v v.text
  | date (d : Calendar.Date) : Reads .date (.date d) d
  | timestamp (t : Calendar.Timestamp) : Reads .timestamp (.timestamp t) t

namespace Scalar

/-- Whether values of a constructor can be read as a scalar type at all. -/
def Pairs : Scalar → Value → Prop
  | .int64, .int64 _ | .int32, .int64 _ => True
  | .uint64, .uint64 _ | .uint32, .uint64 _ => True
  | .float64, .float64 _ => True
  | .string, v => v ≠ .null
  | .date, .date _ => True
  | .timestamp, .timestamp _ => True
  | _, _ => False

/-! ## Narrow integers -/

section Narrow

variable {n : Int64} {k : UInt64}

theorem read_int32_of_mem (lo : -2 ^ 31 ≤ n.toInt) (hi : n.toInt < 2 ^ 31) :
    ∃ m : Int32, Scalar.int32.read (.int64 n) = .ok m ∧ m.toInt = n.toInt := by
  have hn : Int32.minValue.toInt ≤ n.toInt ∧ n.toInt ≤ Int32.maxValue.toInt :=
    ⟨lo, Int.le_of_lt_add_one hi⟩
  refine ⟨n.toInt32, by rw [Scalar.read, if_pos hn], ?_⟩
  rw [Int64.toInt_toInt32]
  exact Int.bmod_eq_of_le lo hi

theorem read_int32_of_not_mem (h : ¬ (-2 ^ 31 ≤ n.toInt ∧ n.toInt < 2 ^ 31)) :
    Scalar.int32.read (.int64 n) = .error (.conversion (.outOfRange (.int64 n) .int32)) := by
  have hn : ¬ (Int32.minValue.toInt ≤ n.toInt ∧ n.toInt ≤ Int32.maxValue.toInt) :=
    fun hn => h ⟨hn.1, Int.lt_add_one_of_le hn.2⟩
  rw [Scalar.read, if_neg hn]

theorem read_int32_eq_ok_iff {m : Int32} :
    Scalar.int32.read (.int64 n) = .ok m ↔ m.toInt = n.toInt := by
  constructor
  · intro h
    by_cases hn : -2 ^ 31 ≤ n.toInt ∧ n.toInt < 2 ^ 31
    · obtain ⟨m', hm', heq⟩ := read_int32_of_mem hn.1 hn.2
      obtain rfl := Except.ok.inj (h.symm.trans hm')
      exact heq
    · rw [read_int32_of_not_mem hn] at h
      cases h
  · intro h
    obtain ⟨m', hm', heq⟩ := read_int32_of_mem (h ▸ m.le_toInt) (h ▸ m.toInt_lt)
    rw [hm', Int32.toInt_inj.1 (heq.trans h.symm)]

theorem read_uint32_of_lt (h : k.toNat < 2 ^ 32) :
    ∃ m : UInt32, Scalar.uint32.read (.uint64 k) = .ok m ∧ m.toNat = k.toNat := by
  refine ⟨k.toUInt32, if_pos h, ?_⟩
  rw [UInt64.toNat_toUInt32, Nat.mod_eq_of_lt h]

theorem read_uint32_of_not_lt (h : ¬ k.toNat < 2 ^ 32) :
    Scalar.uint32.read (.uint64 k) = .error (.conversion (.outOfRange (.uint64 k) .uint32)) :=
  if_neg h

theorem read_uint32_eq_ok_iff {m : UInt32} :
    Scalar.uint32.read (.uint64 k) = .ok m ↔ m.toNat = k.toNat := by
  constructor
  · intro h
    by_cases hk : k.toNat < 2 ^ 32
    · obtain ⟨m', hm', heq⟩ := read_uint32_of_lt hk
      obtain rfl := Except.ok.inj (h.symm.trans hm')
      exact heq
    · rw [read_uint32_of_not_lt hk] at h
      cases h
  · intro h
    obtain ⟨m', hm', heq⟩ := read_uint32_of_lt (h ▸ m.toNat_lt)
    rw [hm', UInt32.toNat_inj.1 (heq.trans h.symm)]

end Narrow

/-! ## All scalar types -/

section Read

variable {s : Scalar} {v : Value}

theorem read_null (s : Scalar) : s.read .null = .error (.conversion (.nullFor s)) := by
  cases s <;> rfl

theorem read_of_not_pairs (hv : v ≠ .null) (h : ¬ s.Pairs v) :
    s.read v = .error (.conversion (.mismatch v s)) := by
  cases s <;> cases v <;> first | rfl | exact absurd trivial h | exact absurd rfl hv | exact absurd hv h

theorem conversion_of_read {e : Error} (h : s.read v = .error e) :
    ∃ fault, e = .conversion fault := by
  unfold Scalar.read at h
  grind

theorem read_eq_ok_iff {x : s.Carrier} : s.read v = .ok x ↔ s.Reads v x := by
  constructor
  · intro h
    cases s with
    | int64 => cases v with
      | int64 n => obtain rfl := Except.ok.inj h; exact .int64 n
      | _ => cases h
    | uint64 => cases v with
      | uint64 n => obtain rfl := Except.ok.inj h; exact .uint64 n
      | _ => cases h
    | float64 => cases v with
      | float64 y => obtain rfl := Except.ok.inj h; exact .float64 y
      | _ => cases h
    | int32 => cases v with
      | int64 n => exact .int32 (read_int32_eq_ok_iff.1 h)
      | _ => cases h
    | uint32 => cases v with
      | uint64 n => exact .uint32 (read_uint32_eq_ok_iff.1 h)
      | _ => cases h
    | string => cases v with
      | null => cases h
      | _ => obtain rfl := Except.ok.inj h; exact .string nofun
    | date => cases v with
      | date d => obtain rfl := Except.ok.inj h; exact .date d
      | _ => cases h
    | timestamp => cases v with
      | timestamp t => obtain rfl := Except.ok.inj h; exact .timestamp t
      | _ => cases h
  · intro h
    cases h with
    | int64 | uint64 | float64 | date | timestamp => rfl
    | int32 h => exact read_int32_eq_ok_iff.2 h
    | uint32 h => exact read_uint32_eq_ok_iff.2 h
    | string h => cases v <;> first | rfl | exact absurd rfl h

end Read

end Scalar

end QueryClient
