import QueryClient.Json.Number

/-!
# Records in JSON

A record with named fields is written as an object, or as an array of its fields in order. `fields?`
answers for every name the tree of its field, if there is one: members with other names do not count,
a name that occurs twice spoils the record, and an array may end early but not late. The functions
after it read a field under its type.
-/

namespace QueryClient.Json

/-- How many members have a name. -/
def occurrences (name : String) (members : List (Option String × Json)) : Nat :=
  members.countP (·.1 = some name)

/-- The value of the first member with a name. -/
def member? (name : String) (members : List (Option String × Json)) : Option Json :=
  (members.find? (·.1 = some name)).map (·.2)

def fields? (names : List String) : Json → Option (List (Option Json))
  | .object members =>
    if members.all (·.1.isSome) && names.all fun name => occurrences name members ≤ 1 then
      some (names.map fun name => member? name members)
    else none
  | .array items =>
    if items.length ≤ names.length then
      some (items.map some ++ List.replicate (names.length - items.length) none)
    else none
  | _ => none

/-- A reader of trees. -/
abbrev Decoder (α : Type) := Json → Option α

def text? : Decoder String
  | .string s => s
  | _ => none

def natural? (max : Nat) : Decoder Nat
  | .number n => n.natural? max
  | _ => none

def uint32? : Decoder UInt32 := fun j =>
  (natural? (UInt32.size - 1) j).map UInt32.ofNat

def uint64? : Decoder UInt64 := fun j =>
  (natural? (UInt64.size - 1) j).map UInt64.ofNat

def float? : Decoder Binary64
  | .number n => n.toBinary64?
  | _ => none

def listOf? {α : Type} (item? : Decoder α) : Decoder (List α)
  | .array items => items.mapM item?
  | _ => none

/-- A value, or a null in its place. -/
def orNull? {α : Type} (value? : Decoder α) : Decoder (Option α)
  | .null => some none
  | j => (value? j).map some

/-- A map of texts; of members with the same name the last one counts. -/
def textMap? : Decoder (List (String × String))
  | .object members => members.mapM fun m => do return (← m.1, ← text? m.2)
  | _ => none

/-- A field that must be there. -/
def required? {α : Type} (value? : Decoder α) (slot : Option Json) : Option α :=
  slot.bind value?

/-- A field with a value that stands for its absence. -/
def withDefault? {α : Type} (default : α) (value? : Decoder α) : Option Json → Option α
  | none => some default
  | some j => value? j

/-- A field that may be absent or null. -/
def optional? {α : Type} (value? : Decoder α) : Option Json → Option (Option α) :=
  withDefault? none (orNull? value?)

end QueryClient.Json
