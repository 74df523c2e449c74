import QueryClient.Binary64.Basic
import QueryClient.Json.Basic

/-!
# Numbers of a JSON text

`Number.natural?` accepts digits alone, up to a bound. `Number.toBinary64?` is quick and not exact:
it keeps the leading digits that fit 64 bits and scales them by one power of ten, with a rounding at
each of the two steps. A number beyond the finite ones is refused.
-/

namespace QueryClient.Json.Number

open QueryClient.Text

/-- A natural number up to `max`, written without a sign, a point and an exponent. -/
def natural? (max : Nat) (n : Number) : Option Nat :=
  if n.negative = false ∧ n.fraction = [] ∧ n.exponent = none ∧ n.whole ≤ max then some n.whole
  else none

/-- Appends digits to a significand while it fits 64 bits; the digits after that are left. -/
def absorb : Nat → List Nat → Nat × List Nat
  | m, [] => (m, [])
  | m, d :: ds => if m * 10 + d < UInt64.size then absorb (m * 10 + d) ds else (m, d :: ds)

/-- The value of a row of digits, each of them a character. -/
def digitValues (n : Nat) : List Nat :=
  (Decimal.digits n).map fun c => (Decimal.digit? c).getD 0

/-- The leading digits, and the power of ten that they are multiplied by. -/
def scaled (n : Number) : Nat × Int :=
  let (m, dropped) := absorb 0 (digitValues n.whole)
  let fraction := n.fraction.map (·.val)
  let (m, left) := absorb m fraction
  (m, n.exponent.getD 0 + dropped.length - (fraction.length - left.length : Nat))

/-- The greatest power of ten that a single step scales by. -/
def maxPower : Nat := 308

def powerOfTen (k : Nat) : Binary64 := Binary64.ofNat (Nat.pow 10 k)

/-- Divides by a power of ten, in steps. -/
def divideByPower (x : Binary64) (k : Nat) : Binary64 :=
  if k ≤ maxPower then x.div (powerOfTen k)
  else if x = Binary64.zero false then x
  else divideByPower (x.div (powerOfTen maxPower)) (k - maxPower)
termination_by k
decreasing_by simp only [maxPower] at *; omega

/-- Multiplies by a power of ten, if the product is finite. -/
def timesPower? (x : Binary64) (k : Nat) : Option Binary64 :=
  if k ≤ maxPower then
    let y := x.mul (powerOfTen k)
    if y.isInfinite then none else some y
  else if x = Binary64.zero false then some x
  else none

def toBinary64? (n : Number) : Option Binary64 :=
  let (m, e) := n.scaled
  let magnitude? := match e with
    | .ofNat k => timesPower? (Binary64.ofNat m) k
    | .negSucc k => some (divideByPower (Binary64.ofNat m) (k + 1))
  magnitude?.map fun x => if n.negative then x.neg else x

end QueryClient.Json.Number
