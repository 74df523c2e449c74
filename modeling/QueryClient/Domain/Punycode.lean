/-!
# Punycode

A label as letters, digits and hyphens. The ASCII characters come first; after the last hyphen stand
the other characters in ascending order, each one as the number of steps from the one before, counted
over characters and places. The numbers have digits in base thirty-six of varying weight.
-/

namespace QueryClient.Domain.Punycode

def isBasic (c : Char) : Bool := c.toNat < 0x80

/-- The digit of a number below thirty-six. -/
def digit (n : Nat) : Char :=
  if n < 26 then Char.ofNat (n + 0x61) else Char.ofNat (n - 26 + 0x30)

def digitValue? (c : Char) : Option Nat :=
  if 'a' ≤ c ∧ c ≤ 'z' then some (c.toNat - 0x61)
  else if 'A' ≤ c ∧ c ≤ 'Z' then some (c.toNat - 0x41)
  else if '0' ≤ c ∧ c ≤ '9' then some (c.toNat - 0x30 + 26)
  else none

/-- The least value of a digit that is not the last one of its number. -/
def threshold (place bias : Nat) : Nat :=
  if place ≤ bias then 1 else if bias + 26 ≤ place then 26 else place - bias

theorem one_le_threshold (place bias : Nat) : 1 ≤ threshold place bias := by
  unfold threshold
  split
  · exact Nat.le_refl _
  · split <;> omega

/-- The part of a new bias that comes from a large step. -/
def adaptFrom (delta place : Nat) : Nat :=
  if h : 455 < delta then adaptFrom (delta / 35) (place + 36)
  else place + 36 * delta / (delta + 38)
termination_by delta
decreasing_by exact Nat.div_lt_self (by omega) (by decide)

/-- The bias after a step, which grows with the step and shrinks with the length of the text. -/
def adapt (delta length : Nat) (isFirst : Bool) : Nat :=
  let delta := if isFirst then delta / 700 else delta / 2
  adaptFrom (delta + delta / length) 0

/-! ## Writing -/

/-- The digits of a number. -/
def numberFrom (bias place n : Nat) : List Char :=
  let t := threshold place bias
  if n < t then [digit n]
  else digit (t + (n - t) % (36 - t)) :: numberFrom bias (place + 36) ((n - t) / (36 - t))
termination_by n
decreasing_by
  have := one_le_threshold place bias
  exact Nat.lt_of_le_of_lt (Nat.div_le_self _ _) (by omega)

/-- What is known between two steps: the digits written, the steps counted since the last one, the
bias, and how many characters are written. -/
structure Writer where
  digits : List Char := []
  delta : Nat := 0
  bias : Nat := 72
  written : Nat
  isFirst : Bool := true

/-- Passes one character of the text while the characters with the number `n` are written. -/
def Writer.pass (n : Nat) (w : Writer) (c : Char) : Writer :=
  if c.toNat < n then { w with delta := w.delta + 1 }
  else if c.toNat = n then
    { digits := w.digits ++ numberFrom w.bias 36 w.delta
      delta := 0
      bias := adapt w.delta (w.written + 1) w.isFirst
      written := w.written + 1
      isFirst := false }
  else w

/-- Writes the characters with the given numbers, which ascend; `n` is where counting goes on. -/
def Writer.run (text : List Char) (w : Writer) (n : Nat) : List Nat → Writer
  | [] => w
  | m :: rest =>
    let w := { w with delta := w.delta + (m - n) * (w.written + 1) }
    let w := text.foldl (Writer.pass m) w
    Writer.run text { w with delta := w.delta + 1 } (m + 1) rest

/-- Puts a number into ascending numbers, unless it is there. -/
def insertNumber (n : Nat) : List Nat → List Nat
  | [] => [n]
  | m :: rest => if n < m then n :: m :: rest else if n = m then m :: rest else m :: insertNumber n rest

def encode (text : List Char) : List Char :=
  let basic := text.filter isBasic
  let others := (text.filter (!isBasic ·)).foldl (fun ns c => insertNumber c.toNat ns) []
  let w := Writer.run text { written := basic.length } 0x80 others
  (if basic.isEmpty then [] else basic ++ ['-']) ++ w.digits

/-! ## Reading -/

/-- A number and the text after it. -/
def readNumber? (bias place weight acc : Nat) : List Char → Option (Nat × List Char)
  | [] => none
  | c :: rest =>
    match digitValue? c with
    | none => none
    | some d =>
      let acc := acc + d * weight
      let t := threshold place bias
      if d < t then some (acc, rest) else readNumber? bias (place + 36) (weight * (36 - t)) acc rest

theorem length_of_readNumber? {bias place weight acc : Nat} {s r : List Char} {n : Nat}
    (h : readNumber? bias place weight acc s = some (n, r)) : r.length < s.length := by
  induction s generalizing place weight acc with
  | nil => simp [readNumber?] at h
  | cons c s ih =>
    rw [readNumber?] at h
    split at h
    · simp at h
    · simp only at h
      split at h
      · simp only [Option.some.injEq, Prod.mk.injEq] at h
        rw [← h.2]
        simp
      · exact Nat.lt_succ_of_lt (ih h)

/-- Reads the characters that are put between those already there. -/
def readFrom? (text : List Char) (n place bias : Nat) (isFirst : Bool) (s : List Char) :
    Option (List Char) :=
  if s = [] then some text
  else
    match h : readNumber? bias 36 1 0 s with
    | none => none
    | some (delta, rest) =>
      have := length_of_readNumber? h
      let length := text.length + 1
      let count := place + delta
      let n := n + count / length
      let spot := count % length
      if n < 0x110000 ∧ ¬(0xd800 ≤ n ∧ n < 0xe000) then
        readFrom? (text.take spot ++ Char.ofNat n :: text.drop spot) n (spot + 1)
          (adapt delta length isFirst) false rest
      else none
termination_by s.length

/-- The ASCII characters before the last hyphen, and what is after it. A hyphen in front separates
nothing. -/
def splitLast (s : List Char) : List Char × List Char :=
  let tail := (s.reverse.takeWhile (· ≠ '-')).reverse
  let front := s.take (s.length - tail.length - 1)
  if front.isEmpty then ([], s) else (front, tail)

def decode? (s : List Char) : Option (List Char) :=
  let (basic, rest) := splitLast s
  if basic.all isBasic then readFrom? basic 0x80 0 72 true rest else none

end QueryClient.Domain.Punycode
