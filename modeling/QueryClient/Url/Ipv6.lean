import QueryClient.Url.Ipv4

/-!
# IPv6 addresses in hosts

Eight pieces of up to four hexadecimal digits. A double colon stands for at least one zero piece, and
the last two pieces may be written as an IPv4 address. The text of an address shortens the first of
its longest rows of zeros.
-/

namespace QueryClient.Url.Ipv6

open QueryClient.Text

/-- The two pieces of an address of four decimal numbers. -/
def dotted? (s : List Char) : Option (Nat × Nat) :=
  let number? (p : List Char) : Option Nat :=
    match p with
    | '0' :: _ :: _ => none
    | _ => (Decimal.value? p).filter (· ≤ 255)
  match s.splitOnP (· = '.') with
  | [a, b, c, d] => do
    return ((← number? a) * 256 + (← number? b), (← number? c) * 256 + (← number? d))
  | _ => none

/-- The pieces read so far, and how many of them stand before the rest of a double colon. -/
structure Pieces where
  pieces : List Nat
  gap : Option Nat

def Pieces.push (p : Pieces) (n : Nat) : Pieces :=
  { p with pieces := p.pieces ++ [n] }

/-- Reads pieces up to the end; every one of them is followed by a colon or is the last. -/
def read? (p : Pieces) (s : List Char) : Option Pieces :=
  match s with
  | [] => some p
  | c :: rest =>
    if 8 ≤ p.pieces.length then none
    else if c = ':' then
      if p.gap.isSome then none
      else read? ⟨p.pieces ++ [0], some (p.pieces.length + 1)⟩ rest
    else
      let digits := ((c :: rest).take 4).takeWhile fun d => (Ipv4.digitIn? 16 d).isSome
      let value := (Ipv4.valueIn? 16 0 digits).getD 0
      match h : (c :: rest).drop digits.length with
      | [] => some (p.push value)
      | '.' :: _ =>
        if digits = [] ∨ 6 < p.pieces.length then none
        else (dotted? s).map fun (a, b) => (p.push a).push b
      | ':' :: d :: rest' =>
        have : rest'.length < rest.length := by
          have := congrArg List.length h
          simp only [List.length_drop, List.length_cons] at this
          omega
        read? (p.push value) (d :: rest')
      | _ => none
termination_by s.length

/-- All eight pieces; the zeros of a double colon are filled in. -/
def Pieces.all? (p : Pieces) : Option (List Nat) :=
  match p.gap with
  | some k =>
    some (p.pieces.take k ++ List.replicate (8 - p.pieces.length) 0 ++ p.pieces.drop k)
  | none => if p.pieces.length = 8 then some p.pieces else none

/-- The pieces of an address between its brackets. -/
def ofChars? (s : List Char) : Option (List Nat) :=
  let pieces? := match s with
    | ':' :: ':' :: rest => read? ⟨[0], some 1⟩ rest
    | [] | [_] | ':' :: _ => none
    | _ => read? ⟨[], none⟩ s
  pieces?.bind Pieces.all?

/-! ## Writing -/

/-- The length of the row of zeros at the front. -/
def zeros (pieces : List Nat) : Nat :=
  (pieces.takeWhile (· = 0)).length

/-- The start and the length of the first longest row of zeros. -/
def longestZeros (pieces : List Nat) : Nat × Nat :=
  (List.range pieces.length).foldl
    (fun best i => if best.2 < zeros (pieces.drop i) then (i, zeros (pieces.drop i)) else best)
    (0, 0)

def pieceChars (pieces : List Nat) : List Char :=
  [':'].intercalate (pieces.map (Nat.toDigits 16))

def chars (pieces : List Nat) : List Char :=
  let (start, length) := longestZeros pieces
  if length < 2 then pieceChars pieces
  else
    pieceChars (pieces.take start) ++ ':' :: ':' :: pieceChars (pieces.drop (start + length))

end QueryClient.Url.Ipv6
