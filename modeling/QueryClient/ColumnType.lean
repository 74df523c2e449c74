import QueryClient.Error
import QueryClient.Text.Blank

/-!
# Column types

The types that the service declares for columns. `ofText` reads a type tag with any letter case,
blanks and wrappers, and answers a type in normal form: wrapped at most once, and never around a
type that holds nulls anyway. `text` writes the tag of a type.
-/

namespace QueryClient

open QueryClient.Text

/-- The widths of integers. -/
inductive Width where
  | w8
  | w16
  | w32
  | w64
  deriving DecidableEq, Repr

def Width.bits : Width → Nat
  | .w8 => 8
  | .w16 => 16
  | .w32 => 32
  | .w64 => 64

/-- How many numbers a width has. -/
def Width.size (w : Width) : Nat :=
  1 <<< w.bits

def Width.text : Width → String
  | .w8 => "8"
  | .w16 => "16"
  | .w32 => "32"
  | .w64 => "64"

inductive ColumnType where
  | null
  | signed (w : Width)
  | unsigned (w : Width)
  | float32
  | float64
  | string
  | date
  | timestamp
  | nullable (inner : ColumnType)
  deriving DecidableEq, Repr

namespace ColumnType

def text : ColumnType → String
  | null => "Null"
  | signed w => "Int" ++ w.text
  | unsigned w => "UInt" ++ w.text
  | float32 => "Float32"
  | float64 => "Float64"
  | string => "String"
  | date => "Date"
  | timestamp => "DateTime"
  | nullable t => "Nullable(" ++ t.text ++ ")"

/-- Whether a column of the type may hold nulls. -/
def isNullable : ColumnType → Bool
  | null | nullable _ => true
  | _ => false

/-- The type without its wrappers. -/
def inner : ColumnType → ColumnType
  | nullable t => t.inner
  | t => t

/-- The least and the greatest number of a signed type. -/
def signedRange? : ColumnType → Option (Int × Int)
  | signed w => some (-(w.size / 2), w.size / 2 - 1)
  | _ => none

/-- The greatest number of an unsigned type. -/
def unsignedMax? : ColumnType → Option Nat
  | unsigned w => some (w.size - 1)
  | _ => none

/-- The type that also allows nulls; a type that allows them stays as it is. -/
def wrap : ColumnType → ColumnType
  | null => null
  | nullable t => nullable t
  | t => nullable t

/-- The type of a tag in lower case without wrappers. -/
def ofName? : String → Option ColumnType
  | "null" => some null
  | "int8" | "tinyint" => some (signed .w8)
  | "int16" | "smallint" => some (signed .w16)
  | "int32" | "int" | "integer" => some (signed .w32)
  | "int64" | "bigint" => some (signed .w64)
  | "uint8" | "tinyint unsigned" => some (unsigned .w8)
  | "uint16" | "smallint unsigned" => some (unsigned .w16)
  | "uint32" | "int unsigned" | "integer unsigned" => some (unsigned .w32)
  | "uint64" | "bigint unsigned" => some (unsigned .w64)
  | "float32" | "float" => some float32
  | "float64" | "double" => some float64
  | "string" | "varchar" | "text" => some string
  | "date" => some date
  | "datetime" | "timestamp" => some timestamp
  | _ => none

/-- Lower case of the ASCII letters. -/
def lowered (s : List Char) : String :=
  String.ofList (s.map Char.toLower)

/-- The text between the parentheses of a wrapper, if the tag is one. -/
def wrapped? (s : List Char) : Option (List Char) :=
  match s.dropWhile (· ≠ '(') with
  | [] => none
  | _ :: rest =>
    if lowered (trim (s.takeWhile (· ≠ '('))) = "nullable" ∧ rest.getLast? = some ')' then
      some rest.dropLast
    else none

theorem length_of_wrapped? {s r : List Char} (h : wrapped? s = some r) : r.length < s.length := by
  unfold wrapped? at h
  split at h
  · simp at h
  · next c rest hs =>
    split at h
    · have hlen : (s.dropWhile (· ≠ '(')).length ≤ s.length :=
        (List.dropWhile_sublist _).length_le
      rw [hs] at hlen
      simp only [Option.some.injEq] at h
      subst h
      simp only [List.length_cons, List.length_dropLast] at hlen ⊢
      omega
    · simp at h

/-- Reads a type tag. A tag that is not supported is reported without its wrappers. -/
def ofChars (s : List Char) : Result ColumnType :=
  match h : wrapped? (trim s) with
  | some body =>
    have : body.length < s.length :=
      Nat.lt_of_lt_of_le (length_of_wrapped? h) (trim_length_le s)
    (ofChars body).map wrap
  | none =>
    match ofName? (lowered (trim s)) with
    | some t => .ok t
    | none => .error (.transport (.unsupportedType (String.ofList (trim s))))
termination_by s.length

def ofText (s : String) : Result ColumnType :=
  ofChars s.toList

end ColumnType

end QueryClient
