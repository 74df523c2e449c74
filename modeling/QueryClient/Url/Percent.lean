import QueryClient.Text.Utf8

/-!
# Percent encoding

A byte is written as a percent sign and two hexadecimal digits. Bytes beyond ASCII always are; which
ASCII characters are depends on the part of a URL that they stand in, so every part has its own set.
-/

namespace QueryClient.Url

open QueryClient.Text

/-- The ASCII characters that are written by number. -/
abbrev EncodeSet := Char → Bool

def isControl (c : Char) : Bool :=
  c.toNat < 0x20 || c.toNat = 0x7f

def fragmentSet : EncodeSet := fun c =>
  isControl c || c = ' ' || c = '"' || c = '<' || c = '>' || c = '`'

def pathSet : EncodeSet := fun c =>
  fragmentSet c || c = '#' || c = '?' || c = '\x7b' || c = '\x7d'

def userinfoSet : EncodeSet := fun c =>
  pathSet c || c = '/' || c = ':' || c = ';' || c = '=' || c = '@' || c = '[' || c = '\\'
    || c = ']' || c = '^' || c = '|'

def querySet : EncodeSet := fun c =>
  isControl c || c = ' ' || c = '"' || c = '#' || c = '<' || c = '>'

def specialQuerySet : EncodeSet := fun c =>
  querySet c || c = '\''

/-- All but letters, digits and four marks. -/
def componentSet : EncodeSet := fun c =>
  !(c.isAlphanum || c = '-' || c = '.' || c = '_' || c = '~')

namespace Percent

/-- The hexadecimal digit of a number below sixteen, in upper case. -/
def hexDigit (n : Nat) : Char :=
  (Nat.digitChar (n % 16)).toUpper

def hexValue? (b : UInt8) : Option Nat :=
  let n := b.toNat
  if 0x30 ≤ n ∧ n ≤ 0x39 then some (n - 0x30)
  else if 0x41 ≤ n ∧ n ≤ 0x46 then some (n - 0x37)
  else if 0x61 ≤ n ∧ n ≤ 0x66 then some (n - 0x57)
  else none

def encodeByte (b : UInt8) : List Char :=
  ['%', hexDigit (b.toNat / 16), hexDigit b.toNat]

def encodeChar (set : EncodeSet) (c : Char) : List Char :=
  if c.toNat < 0x80 && !set c then [c] else (Utf8.encode [c]).flatMap encodeByte

def encode (set : EncodeSet) (s : List Char) : List Char :=
  s.flatMap (encodeChar set)

/-- The byte of two digits. -/
def byte? (hi lo : UInt8) : Option UInt8 := do
  return UInt8.ofNat ((← hexValue? hi) * 16 + (← hexValue? lo))

/-- Resolves the triples of a percent sign and two digits; a sign without them stays. -/
def decodeBytes : List UInt8 → List UInt8
  | [] => []
  | b :: hi :: lo :: rest =>
    match if b = 0x25 then byte? hi lo else none with
    | some x => x :: decodeBytes rest
    | none => b :: decodeBytes (hi :: lo :: rest)
  | b :: rest => b :: decodeBytes rest

/-- The bytes of a text. -/
def decode (s : List Char) : List UInt8 :=
  decodeBytes (Utf8.encode s)

end Percent

end QueryClient.Url
