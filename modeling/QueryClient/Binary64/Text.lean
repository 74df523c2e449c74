import QueryClient.Binary64.Shortest
import QueryClient.Text.Decimal

/-!
# Texts of double-precision numbers

`plain` writes the shortest decimal without an exponent. `detailed` always shows a point or an
exponent, and takes the exponent from `10 ^ 16` up and below `10 ^ -4`. `ofText?` reads an optional
sign, digits with an optional point, and an optional exponent, or the words for infinity and the
datum that is no number, in any letter case.
-/

namespace QueryClient.Binary64

open QueryClient.Text

/-- A decimal without exponent, with at least the given number of places. -/
def Scientific.positional (places : Nat) (d : Scientific) : List Char :=
  let ds := Nat.toDigits 10 d.digits
  match d.exponent with
  | .ofNat k =>
    let whole := ds ++ List.replicate k '0'
    if places = 0 then whole else whole ++ '.' :: List.replicate places '0'
  | .negSucc k =>
    let fraction := k + 1
    let ds := List.replicate (fraction + 1 - ds.length) '0' ++ ds
    ds.take (ds.length - fraction) ++ '.' :: ds.drop (ds.length - fraction)

/-- A decimal with one digit before the point, and an exponent. -/
def Scientific.scientific (d : Scientific) : List Char :=
  match Nat.toDigits 10 d.digits with
  | [] => []
  | lead :: rest =>
    let fraction := if rest.isEmpty then [] else '.' :: rest
    lead :: fraction ++ 'e' :: Decimal.signed (d.exponent + rest.length)

/-- A datum as text, given the text of a positive finite one. -/
def render (zero : List Char) (positive : Scientific → List Char) (x : Binary64) : List Char :=
  let sign (negative : Bool) (s : List Char) := if negative then '-' :: s else s
  match x.form with
  | .nan => ['N', 'a', 'N']
  | .infinite s => sign s ['i', 'n', 'f']
  | .finite s m e => sign s (if m = 0 then zero else positive (shortest m e))

/-- The shortest decimal, without an exponent. -/
def plain (x : Binary64) : String :=
  String.ofList (x.render ['0'] (·.positional 0))

/-- Whether a positive decimal is at least `10 ^ 16`, or less than `10 ^ -4`. -/
def Scientific.isExtreme (d : Scientific) : Bool :=
  let lead := d.exponent + (Nat.toDigits 10 d.digits).length - 1
  16 ≤ lead || lead < -4

/-- The shortest decimal, recognizable as a number with a fraction. -/
def detailed (x : Binary64) : String :=
  String.ofList (x.render ['0', '.', '0'] fun d =>
    if d.isExtreme then d.scientific else d.positional 1)

/-- The datum nearest to `digits * 10 ^ exponent`. -/
def ofDecimal (negative : Bool) (digits : Nat) (exponent : Int) : Binary64 :=
  let lead := exponent + (Nat.toDigits 10 digits).length
  if digits = 0 ∨ lead < -400 then zero negative
  else if 400 < lead then infinity negative
  else
    let (num, den) := scale 10 exponent digits 1
    ofRatio negative num den

/-- An optional sign, and whether it was a minus. -/
def splitSign : List Char → Bool × List Char
  | '-' :: rest => (true, rest)
  | '+' :: rest => (false, rest)
  | s => (false, s)

/-- The exponent of a decimal text: nothing, or a mark and a whole number. -/
def exponent? : List Char → Option Int
  | [] => some 0
  | c :: rest =>
    if c = 'e' ∨ c = 'E' then
      let (negative, ds) := splitSign rest
      (Decimal.value? ds).map fun n => if negative then -(n : Int) else n
    else none

/-- Digits with an optional point and an optional exponent; one side of the point may be empty. -/
def finite? (negative : Bool) (s : List Char) : Option Binary64 :=
  let whole := s.takeWhile Char.isDigit
  let (fraction, rest) := match s.dropWhile Char.isDigit with
    | '.' :: t => (t.takeWhile Char.isDigit, t.dropWhile Char.isDigit)
    | t => ([], t)
  match Decimal.value? (whole ++ fraction), exponent? rest with
  | some digits, some e => some (ofDecimal negative digits (e - fraction.length))
  | _, _ => none

def ofText? (text : String) : Option Binary64 :=
  let (negative, s) := splitSign text.toList
  match String.ofList (s.map Char.toLower) with
  | "nan" => some nan
  | "inf" | "infinity" => some (infinity negative)
  | _ => finite? negative s

end QueryClient.Binary64
