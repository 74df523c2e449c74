import QueryClient.Text.Decimal

/-!
# JSON trees

An object keeps its members in the order of the text, repeated names included. The text of a string
or of a name may hold bytes that are no UTF-8, or half of a surrogate pair; such a text has no
characters and is `none`. Numbers keep their digits: how exactly they are read is up to the reader
of the tree.
-/

namespace QueryClient

open QueryClient.Text

/-- A number as it is written; an empty fraction is no fraction. -/
structure Json.Number where
  negative : Bool
  whole : Nat
  fraction : List (Fin 10)
  exponent : Option Int
  deriving DecidableEq, Repr

inductive Json where
  | null
  | bool (b : Bool)
  | number (n : Json.Number)
  | string (text : Option String)
  | array (items : List Json)
  | object (members : List (Option String × Json))
  deriving Repr, Inhabited

namespace Json

def ofNat (n : Nat) : Json :=
  .number ⟨false, n, [], none⟩

def ofString (s : String) : Json :=
  .string (some s)

/-! ## Writing -/

/-- The hexadecimal digit of a number below sixteen, in lower case. -/
def hexDigit (n : Nat) : Char :=
  Nat.digitChar (n % 16)

/-- One character between quotes. Controls without a form of their own are written by number. -/
def escape (c : Char) : List Char :=
  match c with
  | '"' => ['\\', '"']
  | '\\' => ['\\', '\\']
  | '\x08' => ['\\', 'b']
  | '\x0c' => ['\\', 'f']
  | '\n' => ['\\', 'n']
  | '\r' => ['\\', 'r']
  | '\t' => ['\\', 't']
  | c =>
    if c.toNat < 0x20 then ['\\', 'u', '0', '0', hexDigit (c.toNat / 16), hexDigit c.toNat]
    else [c]

/-- A text between quotes; one without characters is written as half of a surrogate pair. -/
def writeText : Option String → List Char
  | some s => '"' :: s.toList.flatMap escape ++ ['"']
  | none => ['"', '\\', 'u', 'd', '8', '0', '0', '"']

def Number.write (n : Number) : List Char :=
  (if n.negative then ['-'] else []) ++ Decimal.digits n.whole
    ++ (if n.fraction.isEmpty then [] else '.' :: n.fraction.map fun d => Decimal.digit d.val)
    ++ (match n.exponent with
      | none => []
      | some e => 'e' :: Decimal.signed e)

mutual

/-- The text of a tree without blanks. -/
def write : Json → List Char
  | null => ['n', 'u', 'l', 'l']
  | bool true => ['t', 'r', 'u', 'e']
  | bool false => ['f', 'a', 'l', 's', 'e']
  | number n => n.write
  | string s => writeText s
  | array [] => ['[', ']']
  | array (v :: vs) => '[' :: (write v ++ writeItems vs)
  | object [] => ['\x7b', '\x7d']
  | object (m :: ms) => '\x7b' :: (writeText m.1 ++ ':' :: (write m.2 ++ writeMembers ms))

/-- The items after the first one, and the closing bracket. -/
def writeItems : List Json → List Char
  | [] => [']']
  | v :: vs => ',' :: (write v ++ writeItems vs)

/-- The members after the first one, and the closing brace. -/
def writeMembers : List (Option String × Json) → List Char
  | [] => ['\x7d']
  | m :: ms => ',' :: (writeText m.1 ++ ':' :: (write m.2 ++ writeMembers ms))

end

def text (j : Json) : String :=
  String.ofList j.write

end Json

end QueryClient
