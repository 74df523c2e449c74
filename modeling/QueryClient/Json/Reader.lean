import QueryClient.Json.Basic
import QueryClient.Text.Utf8

/-!
# Reading JSON

The reader takes one step for every character. Its state is a phase, which says what may come next,
and the containers that are still open, innermost first. Strings and numbers are gathered up to their
end and read as a whole: `textOf?` resolves the escapes of a string and `Number.ofChars?` checks the
grammar of a number. A text may hold bytes that are no UTF-8 inside strings and nowhere else.
-/

namespace QueryClient.Json

open QueryClient.Text

/-! ## Strings -/

/-- A piece of a string: a character, bytes that are none, or a code unit given by number. -/
inductive TextUnit where
  | char (c : Char)
  | illFormed
  | code (n : Nat)

def hexValue? (c : Char) : Option Nat :=
  if '0' ≤ c ∧ c ≤ '9' then some (c.toNat - 0x30)
  else if 'a' ≤ c ∧ c ≤ 'f' then some (c.toNat - 0x57)
  else if 'A' ≤ c ∧ c ≤ 'F' then some (c.toNat - 0x37)
  else none

/-- The number of four hexadecimal digits. -/
def hex4? (a b c d : Char) : Option Nat := do
  return (((← hexValue? a) * 16 + (← hexValue? b)) * 16 + (← hexValue? c)) * 16 + (← hexValue? d)

/-- The character of a one-letter escape. -/
def shortEscape? : Char → Option Char
  | '"' => some '"'
  | '\\' => some '\\'
  | '/' => some '/'
  | 'b' => some '\x08'
  | 'f' => some '\x0c'
  | 'n' => some '\n'
  | 'r' => some '\r'
  | 't' => some '\t'
  | _ => none

/-- The pieces of a string. Controls and unknown escapes are refused. -/
def units? : List (Option Char) → Option (List TextUnit)
  | [] => some []
  | none :: rest => (units? rest).map (.illFormed :: ·)
  | some '\\' :: some 'u' :: some a :: some b :: some c :: some d :: rest => do
    let n ← hex4? a b c d
    return .code n :: (← units? rest)
  | some '\\' :: some c :: rest => do
    let c ← shortEscape? c
    return .char c :: (← units? rest)
  | some c :: rest =>
    if c = '\\' ∨ c.toNat < 0x20 then none else (units? rest).map (.char c :: ·)

def isHighSurrogate (n : Nat) : Bool := 0xd800 ≤ n && n < 0xdc00

def isLowSurrogate (n : Nat) : Bool := 0xdc00 ≤ n && n < 0xe000

/-- The characters of the pieces; a surrogate counts only together with its other half. -/
def join? : List TextUnit → Option (List Char)
  | [] => some []
  | .char c :: rest => (join? rest).map (c :: ·)
  | .illFormed :: _ => none
  | .code n :: .code m :: rest =>
    if isHighSurrogate n then
      if isLowSurrogate m then
        (join? rest).map (Char.ofNat (0x10000 + (n - 0xd800) * 0x400 + (m - 0xdc00)) :: ·)
      else none
    else if isLowSurrogate n then none
    else (join? (.code m :: rest)).map (Char.ofNat n :: ·)
  | .code n :: rest =>
    if isHighSurrogate n || isLowSurrogate n then none
    else (join? rest).map (Char.ofNat n :: ·)

/-- The text between two quotes; `some none` when it is well formed and not all characters. -/
def textOf? (raw : List (Option Char)) : Option (Option String) :=
  (units? raw).map fun us => (join? us).map String.ofList

/-! ## Numbers -/

/-- The digits of a row of them. -/
def fractionOf? : List Char → Option (List (Fin 10))
  | [] => some []
  | c :: cs =>
    match Decimal.digit? c with
    | some d => (fractionOf? cs).map (Fin.ofNat 10 d :: ·)
    | none => none

/-- An exponent after its mark. -/
def exponentOf? : List Char → Option Int
  | '-' :: ds => (Decimal.value? ds).map fun n => -(n : Int)
  | '+' :: ds => (Decimal.value? ds).map fun n => (n : Int)
  | ds => (Decimal.value? ds).map fun n => (n : Int)

/-- The fraction and the exponent of a number. -/
def tailOf? (s : List Char) : Option (List (Fin 10) × Option Int) :=
  let isMark (c : Char) : Bool := c = 'e' || c = 'E'
  let exponent? (s : List Char) : Option (Option Int) :=
    match s with
    | [] => some none
    | _ :: ds => (exponentOf? ds).map some
  match s with
  | '.' :: rest =>
    match fractionOf? (rest.takeWhile (!isMark ·)), exponent? (rest.dropWhile (!isMark ·)) with
    | some (d :: ds), some e => some (d :: ds, e)
    | _, _ => none
  | c :: _ => if isMark c then (exponent? s).map fun e => ([], e) else none
  | [] => some ([], none)

def Number.ofChars? (s : List Char) : Option Number :=
  let negative := s.head? = some '-'
  let s := if negative then s.tail else s
  let whole := s.takeWhile Char.isDigit
  if whole.head? = some '0' ∧ whole.length ≠ 1 then none
  else do
    let n ← Decimal.value? whole
    let (fraction, exponent) ← tailOf? (s.dropWhile Char.isDigit)
    return ⟨negative, n, fraction, exponent⟩

def isNumberChar (c : Char) : Bool :=
  c.isDigit || c = '-' || c = '+' || c = '.' || c = 'e' || c = 'E'

/-! ## The states of the reader -/

/-- A container that is still open, with what it holds so far, last first. -/
inductive Frame where
  | array (items : List Json)
  /-- An object that waits for the value of a name. -/
  | object (members : List (Option String × Json)) (name : Option String)

/-- What a string stands for. -/
inductive TextUse where
  | value
  | name (members : List (Option String × Json))

inductive Phase where
  /-- Before a value; an array that was just opened may be closed instead. -/
  | value (closable : Bool)
  /-- Before a name; an object that was just opened may be closed instead. -/
  | name (members : List (Option String × Json)) (closable : Bool)
  | colon (members : List (Option String × Json)) (name : Option String)
  /-- Inside a string, with its characters last first. -/
  | text (usage : TextUse) (escaped : Bool) (raw : List (Option Char))
  /-- Inside a number, with its characters last first. -/
  | number (chars : List Char)
  /-- Inside a word, with the characters that it lacks. -/
  | word (rest : List Char) (value : Json)
  /-- After a whole value. -/
  | after (value : Json)

structure Reader where
  phase : Phase
  frames : List Frame

def isSpace (c : Char) : Bool :=
  c = ' ' || c = '\n' || c = '\r' || c = '\t'

/-- The first character of a value. -/
def begin? (c : Char) (frames : List Frame) : Option Reader :=
  match c with
  | '"' => some ⟨.text .value false [], frames⟩
  | '[' => some ⟨.value true, .array [] :: frames⟩
  | '\x7b' => some ⟨.name [] true, frames⟩
  | 'n' => some ⟨.word ['u', 'l', 'l'] .null, frames⟩
  | 't' => some ⟨.word ['r', 'u', 'e'] (.bool true), frames⟩
  | 'f' => some ⟨.word ['a', 'l', 's', 'e'] (.bool false), frames⟩
  | c => if isNumberChar c then some ⟨.number [c], frames⟩ else none

/-- A character after a whole value. -/
def follow? (c : Char) (value : Json) (frames : List Frame) : Option Reader :=
  if isSpace c then some ⟨.after value, frames⟩
  else
    match frames, c with
    | .array items :: rest, ',' => some ⟨.value false, .array (value :: items) :: rest⟩
    | .array items :: rest, ']' => some ⟨.after (.array (value :: items).reverse), rest⟩
    | .object members name :: rest, ',' => some ⟨.name ((name, value) :: members) false, rest⟩
    | .object members name :: rest, '\x7d' =>
      some ⟨.after (.object ((name, value) :: members).reverse), rest⟩
    | _, _ => none

/-- The string is over. -/
def endText? (usage : TextUse) (raw : List (Option Char)) (frames : List Frame) : Option Reader := do
  let text ← textOf? raw.reverse
  match usage with
  | .value => return ⟨.after (.string text), frames⟩
  | .name members => return ⟨.colon members text, frames⟩

def step (r : Reader) (c : Option Char) : Option Reader :=
  match r.phase, c with
  | .text usage true raw, c => some ⟨.text usage false (c :: raw), r.frames⟩
  | .text usage false raw, some '"' => endText? usage raw r.frames
  | .text usage false raw, c => some ⟨.text usage (c = some '\\') (c :: raw), r.frames⟩
  | _, none => none
  | .value closable, some c =>
    if isSpace c then some r
    else
      match closable, c, r.frames with
      | true, ']', .array _ :: rest => some ⟨.after (.array []), rest⟩
      | _, _, frames => begin? c frames
  | .name members closable, some c =>
    if isSpace c then some r
    else if c = '"' then some ⟨.text (.name members) false [], r.frames⟩
    else if closable ∧ c = '\x7d' then some ⟨.after (.object []), r.frames⟩
    else none
  | .colon members name, some c =>
    if isSpace c then some r
    else if c = ':' then some ⟨.value false, .object members name :: r.frames⟩
    else none
  | .number chars, some c =>
    if isNumberChar c then some ⟨.number (c :: chars), r.frames⟩
    else (Number.ofChars? chars.reverse).bind fun n => follow? c (.number n) r.frames
  | .word [] v, some c => follow? c v r.frames
  | .word (d :: rest) v, some c =>
    if c = d then some ⟨if rest.isEmpty then .after v else .word rest v, r.frames⟩ else none
  | .after v, some c => follow? c v r.frames

/-- The tree that was read, when the text ends here. -/
def Reader.done? (r : Reader) : Option Json :=
  match r.frames, r.phase with
  | [], .after v => some v
  | [], .number chars => (Number.ofChars? chars.reverse).map .number
  | _, _ => none

/-- Reads a tree, and nothing but blanks around it. -/
def ofScan? (s : List (Option Char)) : Option Json :=
  (s.foldlM step ⟨.value false, []⟩).bind Reader.done?

def ofBytes? (bytes : List UInt8) : Option Json :=
  ofScan? (Utf8.scan bytes)

def ofText? (text : String) : Option Json :=
  ofScan? (text.toList.map some)

end QueryClient.Json
