import QueryClient.ColumnType
import QueryClient.Value.Kind

/-!
# Rows

A row has one value for each column of its result. Columns are addressed by position or by name; of
columns with equal names the first one is meant. `Row.readAll` reads every field at once.
-/

namespace QueryClient

structure Column where
  name : String
  type : ColumnType
  deriving DecidableEq, Repr

structure Row where
  columns : List Column
  values : List Value
  deriving DecidableEq, Repr

namespace Row

/-- The position of a column. -/
def position? (row : Row) : ColumnIndex → Option Nat
  | .position n => if n < row.values.length then some n else none
  | .name s => row.columns.findIdx? (·.name = s)

def value (row : Row) (index : ColumnIndex) : Result Value :=
  match (row.position? index).bind (row.values[·]?) with
  | some v => .ok v
  | none => .error (.conversion (.missingColumn index))

/-- Reads the field of a column. -/
def get (row : Row) (kind : Kind) (index : ColumnIndex) : Result kind.Carrier := do
  kind.read (← row.value index)

/-- Reads the field of a column that may be null. -/
def get? (row : Row) (kind : Kind) (index : ColumnIndex) : Result (Option kind.Carrier) :=
  row.get (.optional kind) index

/-- The fields read as a list of kinds. -/
abbrev Fields : List Kind → Type
  | [] => Unit
  | k :: ks => k.Carrier × Fields ks

/-- Reads the fields from a position on. -/
def readFrom (row : Row) (n : Nat) : (kinds : List Kind) → Result (Fields kinds)
  | [] => .ok ()
  | k :: ks => do
    let x ← row.get k (.position n)
    let xs ← readFrom row (n + 1) ks
    return (x, xs)

/-- Reads the whole row. -/
def readAll (row : Row) (kinds : List Kind) : Result (Fields kinds) :=
  if row.values.length = kinds.length then row.readFrom 0 kinds
  else .error (.conversion (.arity row.values.length kinds.length))

/-- The columns with their values. -/
def cells (row : Row) : List (Column × Value) :=
  row.columns.zip row.values

end Row

end QueryClient
