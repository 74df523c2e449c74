/-!
# UTF-8

`encode` writes characters as bytes. `scan` reads bytes as characters, with `none` for every
ill-formed run: the longest start of a well-formed sequence that the next byte does not go on with,
or a single byte that starts none. `decode?` accepts well-formed texts alone and `decodeLossy` shows
each ill-formed run as a replacement character.
-/

namespace QueryClient.Text.Utf8

def encode (s : List Char) : List UInt8 :=
  s.flatMap String.utf8EncodeChar

/-- A sequence that was begun: how many bytes it still needs, the range that the next one must lie
in, and the bits read so far. -/
structure Begun where
  needed : Nat
  low : UInt8
  high : UInt8
  bits : Nat

/-- What a byte means between two characters. -/
inductive Lead where
  | char (c : Char)
  | begun (b : Begun)
  | illFormed

def lead (b : UInt8) : Lead :=
  let n := b.toNat
  if n < 0x80 then .char (Char.ofNat n)
  else if n < 0xc2 then .illFormed
  else if n < 0xe0 then .begun ⟨1, 0x80, 0xbf, n - 0xc0⟩
  else if n < 0xf0 then
    .begun ⟨2, if n = 0xe0 then 0xa0 else 0x80, if n = 0xed then 0x9f else 0xbf, n - 0xe0⟩
  else if n < 0xf5 then
    .begun ⟨3, if n = 0xf0 then 0x90 else 0x80, if n = 0xf4 then 0x8f else 0xbf, n - 0xf0⟩
  else .illFormed

/-- Reads on from the middle of a sequence, if one was begun. -/
def scanFrom : Option Begun → List UInt8 → List (Option Char)
  | none, [] => []
  | some _, [] => [none]
  | none, b :: bs =>
    match lead b with
    | .char c => some c :: scanFrom none bs
    | .begun g => scanFrom (some g) bs
    | .illFormed => none :: scanFrom none bs
  | some g, b :: bs =>
    if g.low ≤ b ∧ b ≤ g.high then
      let bits := g.bits * 64 + b.toNat % 64
      if g.needed ≤ 1 then some (Char.ofNat bits) :: scanFrom none bs
      else scanFrom (some ⟨g.needed - 1, 0x80, 0xbf, bits⟩) bs
    else
      match lead b with
      | .char c => none :: some c :: scanFrom none bs
      | .begun g => none :: scanFrom (some g) bs
      | .illFormed => none :: none :: scanFrom none bs

/-- The characters and ill-formed runs of a byte text, in order. -/
def scan (bytes : List UInt8) : List (Option Char) :=
  scanFrom none bytes

/-- The characters of a list without gaps. -/
def allSome? : List (Option Char) → Option (List Char)
  | [] => some []
  | some c :: rest => (allSome? rest).map (c :: ·)
  | none :: _ => none

def decode? (bytes : List UInt8) : Option (List Char) :=
  allSome? (scan bytes)

def decodeLossy (bytes : List UInt8) : List Char :=
  (scan bytes).map (·.getD '\uFFFD')

end QueryClient.Text.Utf8
