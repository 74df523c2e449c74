/-!
# Double-precision numbers

A `Binary64` is a number in the 64-bit interchange format, kept as its bits so that two of them are
equal exactly when they are the same datum. `form` takes it apart into a sign, a whole significand
and a power of two; `ofRatio` is the datum nearest to a fraction, a half going to the even
significand. Products and quotients are those of the exact values, rounded once.
-/

namespace QueryClient

structure Binary64 where
  bits : UInt64
  deriving DecidableEq, Repr, Inhabited

namespace Binary64

/-- The parts of a datum; a finite one has the value `significand * 2 ^ exponent`. -/
inductive Form where
  | nan
  | infinite (negative : Bool)
  | finite (negative : Bool) (significand : Nat) (exponent : Int)
  deriving DecidableEq, Repr

def form (x : Binary64) : Form :=
  let n := x.bits.toNat
  let negative := n >>> 63 = 1
  let biased : Nat := n >>> 52 % 2048
  let fraction : Nat := n % 1 <<< 52
  if biased = 2047 then (if fraction = 0 then .infinite negative else .nan)
  else if biased = 0 then .finite negative fraction (-1074)
  else .finite negative (1 <<< 52 + fraction) ((biased : Int) - 1075)

/-- The datum with the given magnitude bits. -/
def ofMagnitude (negative : Bool) (n : Nat) : Binary64 :=
  ⟨UInt64.ofNat (n + if negative then 1 <<< 63 else 0)⟩

def nan : Binary64 := ofMagnitude false (2047 <<< 52 + 1 <<< 51)

def infinity (negative : Bool) : Binary64 := ofMagnitude negative (2047 <<< 52)

def zero (negative : Bool) : Binary64 := ofMagnitude negative 0

/-- A fraction times a power of a base, as a fraction. -/
def scale (base : Nat) (e : Int) (num den : Nat) : Nat × Nat :=
  match e with
  | .ofNat k => (num * base.pow k, den)
  | .negSucc k => (num, den * base.pow (k + 1))

/-- The quotient rounded to the nearest whole number, a half to the even one. -/
def roundHalfEven (num den : Nat) : Nat :=
  let q := num / den
  let r := num % den
  if 2 * r < den then q
  else if den < 2 * r then q + 1
  else if q % 2 = 0 then q else q + 1

/-- The greatest `k` with `2 ^ k ≤ num / den`, for positive arguments. -/
def floorLog2 (num den : Nat) : Int :=
  let k : Int := (Nat.log2 num : Int) - Nat.log2 den
  let (n, d) := scale 2 (-k) num den
  if d ≤ n then k else k - 1

/-- The datum nearest to `num / den`, a half to the even significand. -/
def ofRatio (negative : Bool) (num den : Nat) : Binary64 :=
  if num = 0 then zero negative
  else
    let e := max (floorLog2 num den - 52) (-1074)
    let (n, d) := scale 2 (-e) num den
    let magnitude := (e + 1074).toNat <<< 52 + roundHalfEven n d
    if magnitude < 2047 <<< 52 then ofMagnitude negative magnitude else infinity negative

def ofNat (n : Nat) : Binary64 := ofRatio false n 1

def isInfinite (x : Binary64) : Bool :=
  match x.form with
  | .infinite _ => true
  | _ => false

def neg (x : Binary64) : Binary64 :=
  ⟨x.bits ^^^ 0x8000000000000000⟩

/-- The product of two finite data. -/
def mul (x y : Binary64) : Binary64 :=
  match x.form, y.form with
  | .finite s m e, .finite t n f =>
    let (num, den) := scale 2 (e + f) (m * n) 1
    ofRatio (s != t) num den
  | _, _ => nan

/-- The quotient of a finite datum by a finite one that is not zero. -/
def div (x y : Binary64) : Binary64 :=
  match x.form, y.form with
  | .finite s m e, .finite t n f =>
    let (num, den) := scale 2 (e - f) m n
    ofRatio (s != t) num den
  | _, _ => nan

end Binary64

end QueryClient
