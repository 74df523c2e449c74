import QueryClient.Binary64.Basic

/-!
# Shortest decimals

`shortest` is the decimal with the fewest digits that lies closer to a datum than to its neighbours,
so that it reads back as the same datum. Of two such decimals with equally many digits the nearer one
is taken, and the greater one if they are equally near.
-/

namespace QueryClient.Binary64

/-- A decimal `digits * 10 ^ exponent`. -/
structure Scientific where
  digits : Nat
  exponent : Int
  deriving DecidableEq, Repr

/-- The fractions that read back as a datum lie between `low / den` and `high / den`. -/
structure Interval where
  low : Nat
  value : Nat
  high : Nat
  den : Nat
  closed : Bool

/-- The interval of a positive finite datum. Below a power of two the neighbour is half as far. -/
def interval (m : Nat) (e : Int) : Interval :=
  let (one, den) := scale 2 (e - 2) 1 1
  let below := if m = 1 <<< 52 ∧ -1074 < e then 1 else 2
  ⟨(4 * m - below) * one, 4 * m * one, (4 * m + 2) * one, den, m % 2 = 0⟩

/-- Whether `num / den` reads back as the datum of the interval. -/
def Interval.holds (i : Interval) (num den : Nat) : Bool :=
  let n := num * i.den
  if i.closed then i.low * den ≤ n && n ≤ i.high * den
  else i.low * den < n && n < i.high * den

/-- The greatest `k` with `10 ^ k ≤ num / den`, for positive arguments. -/
def floorLog10 (num den : Nat) : Int :=
  let guess : Int := (floorLog2 num den) * 30103 / 100000
  let fits (k : Int) : Bool :=
    let (n, d) := scale 10 (-k) num den
    d ≤ n
  if fits (guess + 1) then guess + 1 else if fits guess then guess else guess - 1

/-- Drops zeros at the end, at most as many as the first argument. -/
def Scientific.trimmed : Nat → Scientific → Scientific
  | 0, d => d
  | fuel + 1, d =>
    if d.digits ≠ 0 ∧ d.digits % 10 = 0 then trimmed fuel ⟨d.digits / 10, d.exponent + 1⟩ else d

/-- The nearest decimal with a given last place that reads back, if there is one. -/
def nearest? (i : Interval) (place : Int) : Option Scientific :=
  let (n, d) := scale 10 (-place) i.value i.den
  let (one, unit) := scale 10 place 1 1
  let down := n / d
  let up := down + 1
  match i.holds (down * one) unit, i.holds (up * one) unit with
  | true, true => if 2 * (n % d) < d then some ⟨down, place⟩ else some ⟨up, place⟩
  | true, false => some ⟨down, place⟩
  | false, true => some ⟨up, place⟩
  | false, false => none

/-- The shortest decimal of a positive finite datum; seventeen digits always suffice. -/
def shortest (m : Nat) (e : Int) : Scientific :=
  let i := interval m e
  let top := floorLog10 i.value i.den
  let found := (List.range 17).findSome? fun (n : Nat) => nearest? i (top - n)
  (found.getD ⟨0, 0⟩).trimmed 20

end QueryClient.Binary64
