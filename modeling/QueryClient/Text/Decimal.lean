/-!
# Decimal digits

Natural numbers as digits and back. `digits` writes a number without leading zeros, `padded` fills
it up with zeros to a width, and `value?` reads any non-empty row of digits. `readNat?` and
`readInt?` read the signed forms that the service writes: an optional sign, then digits, within
given bounds.
-/

namespace QueryClient.Text.Decimal

/-- The digit of a number below ten. -/
def digit (n : Nat) : Char :=
  Char.ofNat (0x30 + n % 10)

/-- The digits of a number, most significant first; zero is one digit. -/
def digits (n : Nat) : List Char :=
  Nat.toDigits 10 n

/-- The digits of a number, with zeros in front up to a width. -/
def padded (width n : Nat) : List Char :=
  let ds := digits n
  List.replicate (width - ds.length) '0' ++ ds

/-- An integer with a minus sign in front when it is negative. -/
def signed : Int → List Char
  | .ofNat n => digits n
  | .negSucc n => '-' :: digits (n + 1)

def text (n : Nat) : String :=
  String.ofList (digits n)

def signedText (n : Int) : String :=
  String.ofList (signed n)

/-- The value of a digit. -/
def digit? (c : Char) : Option Nat :=
  if '0' ≤ c ∧ c ≤ '9' then some (c.toNat - 0x30) else none

/-- The value of digits read after a number that was read already. -/
def valueFrom? : Nat → List Char → Option Nat
  | acc, [] => some acc
  | acc, c :: cs =>
    match digit? c with
    | some d => valueFrom? (10 * acc + d) cs
    | none => none

/-- The value of a non-empty row of digits. -/
def value? : List Char → Option Nat
  | [] => none
  | cs => valueFrom? 0 cs

/-- Why a text is no integer of the expected kind. -/
inductive Fault where
  | empty
  | invalidDigit
  | tooLarge
  deriving DecidableEq, Repr

/-- Reads digits after a number that was read already. The first character that is no digit, or that
leads beyond `max`, decides the fault. -/
def readDigits (max : Nat) : Nat → List Char → Except Fault Nat
  | acc, [] => .ok acc
  | acc, c :: cs =>
    match digit? c with
    | none => .error .invalidDigit
    | some d =>
      if 10 * acc + d ≤ max then readDigits max (10 * acc + d) cs else .error .tooLarge

theorem le_of_readDigits {max acc n : Nat} {cs : List Char} (h : readDigits max acc cs = .ok n)
    (hacc : acc ≤ max) : n ≤ max := by
  fun_induction readDigits max acc cs with
  | case1 acc => rwa [← Except.ok.inj h]
  | case2 => simp at h
  | case3 acc c cs d hd hle ih => exact ih h hle
  | case4 => simp at h

/-- An optional plus, then digits, with a value up to `max`. A lone plus is an invalid digit. -/
def readNat (max : Nat) (s : List Char) : Except Fault Nat :=
  match s with
  | [] => .error .empty
  | '+' :: c :: rest => readDigits max 0 (c :: rest)
  | _ => readDigits max 0 s

def readNat? (max : Nat) (s : List Char) : Option Nat :=
  (readNat max s).toOption

theorem le_of_readNat? {max n : Nat} {s : List Char} (h : readNat? max s = some n) : n ≤ max := by
  have hok : readNat max s = .ok n := by
    unfold readNat? at h
    cases hr : readNat max s with
    | error e => simp [hr, Except.toOption] at h
    | ok m => rw [hr] at h; exact congrArg Except.ok (Option.some.inj h)
  unfold readNat at hok
  split at hok
  · simp at hok
  · exact le_of_readDigits hok (Nat.zero_le max)
  · exact le_of_readDigits hok (Nat.zero_le max)

/-- An optional sign, then digits, with a value from `min` to `max`. -/
def readInt? (min max : Int) (s : List Char) : Option Int :=
  let n : Option Int := match s with
    | '-' :: rest => (value? rest).map fun n => -(n : Int)
    | '+' :: rest => (value? rest).map fun n => (n : Int)
    | _ => (value? s).map fun n => (n : Int)
  n.filter fun n => min ≤ n ∧ n ≤ max

theorem le_of_readInt? {min max n : Int} {s : List Char} (h : readInt? min max s = some n) :
    min ≤ n ∧ n ≤ max := by
  simpa using (Option.filter_eq_some_iff.1 h).2

end QueryClient.Text.Decimal
