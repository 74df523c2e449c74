import QueryClient.ColumnType

/-!
# Decoding fields

A field arrives as a text or as nothing, and its column's type says which value it stands for.
Integers must lie in the declared width; a missing field is a value of the types that allow nulls
and of no other.
-/

namespace QueryClient.Value

open QueryClient.Text QueryClient.Calendar

/-- The value of a text under a type, if it is one. -/
def ofText? (type : ColumnType) (raw : String) : Option Value :=
  match type.inner with
  | .null | .nullable _ => some null
  | .signed w =>
    (Decimal.readInt? (-(w.size / 2)) (w.size / 2 - 1) raw.toList).map fun n =>
      int64 (Int64.ofInt n)
  | .unsigned w =>
    (Decimal.readNat? (w.size - 1) raw.toList).map fun n => uint64 (UInt64.ofNat n)
  | .float32 | .float64 => (Binary64.ofText? raw).map float64
  | .string => some (string raw)
  | .date => (Date.ofText? raw).map date
  | .timestamp => (Timestamp.ofText? raw).map timestamp

/-- Decodes the field of a column. -/
def decode (type : ColumnType) (raw : Option String) (column : Nat) : Result Value :=
  match raw with
  | none => if type.isNullable then .ok null else .error (.decode column "null" type.text)
  | some raw =>
    match ofText? type raw with
    | some v => .ok v
    | none => .error (.decode column raw type.text)

end QueryClient.Value
