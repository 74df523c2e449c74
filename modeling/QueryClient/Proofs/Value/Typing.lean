import Mathlib.Algebra.Group.Int.Defs
import Mathlib.Algebra.Group.Nat.Defs
import Mathlib.Data.List.Forall2
import QueryClient.Stream.Basic

/-!
# Values of column types

A decoded value is one of its column's declared type: the type prescribes the constructor, a number
lies in the declared width, and only a type that allows nulls has one (`hasType_of_decode`). So the
fields of a row have one value for each column, each of the column's type
(`hasType_of_decodeFields`).
-/

namespace QueryClient

theorem Width.size_eq (w : Width) : w.size = 2 ^ w.bits := by
  cases w <;> rfl

/-- Half of the numbers of a width are negative when it is read with signs. -/
theorem Width.size_half (w : Width) : w.size / 2 = 2 ^ (w.bits - 1) := by
  cases w <;> rfl

theorem Width.size_half_int (w : Width) : (w.size / 2 : Int) = 2 ^ (w.bits - 1) := by
  exact_mod_cast w.size_half

/-- The numbers of a signed width are kept in 64 bits. -/
theorem Width.toInt_ofInt (w : Width) {n : Int} (lo : -2 ^ (w.bits - 1) ≤ n)
    (hi : n < 2 ^ (w.bits - 1)) : (Int64.ofInt n).toInt = n := by
  have hmax : (2 : Int) ^ (w.bits - 1) ≤ 2 ^ 63 := by
    cases w <;> simp [Width.bits]
  exact Int64.toInt_ofInt_of_le (by omega) (by omega)

/-- The numbers of an unsigned width are kept in 64 bits. -/
theorem Width.toNat_ofNat (w : Width) {n : Nat} (hi : n < 2 ^ w.bits) :
    (UInt64.ofNat n).toNat = n := by
  have hmax : 2 ^ w.bits ≤ 2 ^ 64 := by
    cases w <;> simp [Width.bits]
  exact UInt64.toNat_ofNat_of_lt' (Nat.lt_of_lt_of_le hi hmax)

namespace Value

/-- The values of a column type. -/
inductive HasType (type : ColumnType) : Value → Prop
  | null (h : type.isNullable = true) : HasType type .null
  | int64 {n : Int64} {w : Width} (h : type.inner = .signed w) (lo : -2 ^ (w.bits - 1) ≤ n.toInt)
      (hi : n.toInt < 2 ^ (w.bits - 1)) : HasType type (.int64 n)
  | uint64 {n : UInt64} {w : Width} (h : type.inner = .unsigned w) (hi : n.toNat < 2 ^ w.bits) :
      HasType type (.uint64 n)
  | float64 {x : Binary64} (h : type.inner = .float32 ∨ type.inner = .float64) :
      HasType type (.float64 x)
  | string {s : String} (h : type.inner = .string) : HasType type (.string s)
  | date {d : Calendar.Date} (h : type.inner = .date) : HasType type (.date d)
  | timestamp {t : Calendar.Timestamp} (h : type.inner = .timestamp) : HasType type (.timestamp t)

theorem inner_ne_nullable (type t : ColumnType) : type.inner ≠ .nullable t := by
  induction type with
  | nullable u ih => exact ih
  | null | signed | unsigned | float32 | float64 | string | date | timestamp =>
    simp [ColumnType.inner]

/-- A type of nulls alone allows them, however often it is wrapped. -/
theorem isNullable_of_inner {type : ColumnType} (h : type.inner = .null) :
    type.isNullable = true := by
  cases type <;> simp_all [ColumnType.inner, ColumnType.isNullable]

theorem hasType_int64 {type : ColumnType} {w : Width} (h : type.inner = .signed w) {n : Int}
    (lo : -(w.size / 2 : Int) ≤ n) (hi : n ≤ w.size / 2 - 1) :
    HasType type (.int64 (Int64.ofInt n)) := by
  rw [w.size_half_int] at lo hi
  have hn := w.toInt_ofInt lo (by omega)
  exact .int64 h (by rw [hn]; exact lo) (by rw [hn]; omega)

theorem hasType_uint64 {type : ColumnType} {w : Width} (h : type.inner = .unsigned w) {n : Nat}
    (hi : n ≤ w.size - 1) : HasType type (.uint64 (UInt64.ofNat n)) := by
  have hpos : 0 < 2 ^ w.bits := Nat.two_pow_pos _
  rw [w.size_eq] at hi
  have hn := w.toNat_ofNat (n := n) (by omega)
  exact .uint64 h (by rw [hn]; omega)

theorem hasType_of_ofText? {type : ColumnType} {raw : String} {v : Value}
    (h : ofText? type raw = some v) : HasType type v := by
  unfold ofText? at h
  split at h
  · next ht => rw [← Option.some.inj h]; exact .null (isNullable_of_inner ht)
  · next t ht => exact absurd ht (inner_ne_nullable type t)
  · next w ht =>
    obtain ⟨n, hn, rfl⟩ := Option.map_eq_some_iff.1 h
    obtain ⟨lo, hi⟩ := Text.Decimal.le_of_readInt? hn
    exact hasType_int64 ht lo hi
  · next w ht =>
    obtain ⟨n, hn, rfl⟩ := Option.map_eq_some_iff.1 h
    exact hasType_uint64 ht (Text.Decimal.le_of_readNat? hn)
  · next ht => obtain ⟨x, -, rfl⟩ := Option.map_eq_some_iff.1 h; exact .float64 (.inl ht)
  · next ht => obtain ⟨x, -, rfl⟩ := Option.map_eq_some_iff.1 h; exact .float64 (.inr ht)
  · next ht => rw [← Option.some.inj h]; exact .string ht
  · next ht => obtain ⟨d, -, rfl⟩ := Option.map_eq_some_iff.1 h; exact .date ht
  · next ht => obtain ⟨t, -, rfl⟩ := Option.map_eq_some_iff.1 h; exact .timestamp ht

theorem hasType_of_decode {type : ColumnType} {raw : Option String} {n : Nat} {v : Value}
    (h : decode type raw n = .ok v) : HasType type v := by
  unfold decode at h
  split at h
  · split_ifs at h with hnull
    rw [← Except.ok.inj h]
    exact .null hnull
  · split at h
    · next v' hv => rw [← Except.ok.inj h]; exact hasType_of_ofText? hv
    · simp at h

end Value

namespace Row

/-- Whether a row has one value for each of its columns, of the column's type. -/
def WellTyped (row : Row) : Prop :=
  List.Forall₂ (fun c v => Value.HasType c.type v) row.columns row.values

theorem WellTyped.length_eq {row : Row} (h : row.WellTyped) :
    row.values.length = row.columns.length :=
  (List.Forall₂.length_eq h).symm

end Row

namespace RowStream

theorem hasType_of_decodeFields {n : Nat} {columns : List Column} {raw : RawRow}
    {values : List Value} (hlen : raw.length = columns.length)
    (h : decodeFields n columns raw = .ok values) :
    List.Forall₂ (fun c v => Value.HasType c.type v) columns values := by
  induction columns generalizing n raw values with
  | nil => cases raw <;> simp_all [decodeFields]
  | cons c columns ih =>
    obtain ⟨field, raw, rfl⟩ := List.exists_cons_of_length_eq_add_one hlen
    rw [decodeFields] at h
    obtain ⟨v, hv, h⟩ := exists_of_bind h
    obtain ⟨vs, hvs, h⟩ := exists_of_bind h
    obtain rfl := Except.ok.inj h
    exact .cons (Value.hasType_of_decode hv) (ih (by simpa using hlen) hvs)

/-- A row that is handed out has the columns of its stream and a value of the type of each. -/
theorem wellTyped_of_decode {s : RowStream} {raw : RawRow} {row : Row}
    (h : s.decode raw = .ok row) : row.columns = s.columns ∧ row.WellTyped := by
  unfold decode at h
  split_ifs at h with hlen
  cases hv : decodeFields 0 s.columns raw with
  | error e => simp [hv, Except.map] at h
  | ok values =>
    simp only [hv, Except.map, Except.ok.injEq] at h
    subst h
    exact ⟨rfl, hasType_of_decodeFields (not_not.1 hlen) hv⟩

end RowStream

end QueryClient
