import QueryClient.Error

/-!
# Reading values

A `Kind` is what a caller asks a value to be: a scalar type, the value as it is, or either of them
with room for nulls. `Kind.read` answers an element of the type that the kind stands for. Every
value but a null has a text, so all of them read as strings.
-/

namespace QueryClient

open QueryClient.Calendar

/-- The elements of a scalar type. -/
abbrev Scalar.Carrier : Scalar → Type
  | .int64 => Int64
  | .uint64 => UInt64
  | .float64 => Binary64
  | .int32 => Int32
  | .uint32 => UInt32
  | .string => String
  | .date => Date
  | .timestamp => Timestamp

/-- Reads a value that is not null. Narrow integers are read from wide ones in range. -/
def Scalar.read : (s : Scalar) → Value → Result s.Carrier
  | s, .null => .error (.conversion (.nullFor s))
  | .int64, .int64 n => .ok n
  | .uint64, .uint64 n => .ok n
  | .float64, .float64 x => .ok x
  | .int32, .int64 n =>
    if Int32.minValue.toInt ≤ n.toInt ∧ n.toInt ≤ Int32.maxValue.toInt then .ok n.toInt32
    else .error (.conversion (.outOfRange (.int64 n) .int32))
  | .uint32, .uint64 n =>
    if n.toNat < UInt32.size then .ok n.toUInt32
    else .error (.conversion (.outOfRange (.uint64 n) .uint32))
  | .string, v => .ok v.text
  | .date, .date d => .ok d
  | .timestamp, .timestamp t => .ok t
  | s, v => .error (.conversion (.mismatch v s))

inductive Kind where
  | scalar (s : Scalar)
  | value
  | optional (k : Kind)
  deriving DecidableEq, Repr

/-- What reading as a kind answers. -/
abbrev Kind.Carrier : Kind → Type
  | .scalar s => s.Carrier
  | .value => Value
  | .optional k => Option k.Carrier

def Kind.read : (k : Kind) → Value → Result k.Carrier
  | .scalar s, v => s.read v
  | .value, v => .ok v
  | .optional _, .null => .ok none
  | .optional k, v => (k.read v).map some

end QueryClient
