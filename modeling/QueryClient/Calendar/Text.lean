import QueryClient.Calendar.Timestamp
import QueryClient.Text.Decimal

/-!
# Texts of dates and timestamps

The two directions of the wire differ. Results carry `YYYY-MM-DD HH:MM:SS`, loads are written
`YYYY-MM-DDTHH:MM:SSZ`; both have a fraction only when it is not zero. `Timestamp.ofInput` reads
the second form with any offset from universal time, and the same form without an offset.
-/

namespace QueryClient.Calendar

open QueryClient.Text

/-! ## Reading -/

/-- A value and the text after it. -/
abbrev Read (α : Type) := List Char → Option (α × List Char)

/-- A number of exactly `n` digits. -/
def fixed? (n : Nat) : Read Nat := fun s =>
  let ds := s.take n
  if ds.length = n then (Decimal.value? ds).map fun v => (v, s.drop n) else none

/-- The text after a given character. -/
def after? (c : Char) : List Char → Option (List Char)
  | [] => none
  | d :: rest => if d = c then some rest else none

/-- A four-digit year, with an optional sign. -/
def signedYear? : Read Int := fun s =>
  match s with
  | '-' :: rest => (fixed? 4 rest).map fun (y, r) => (-(y : Int), r)
  | '+' :: rest => (fixed? 4 rest).map fun (y, r) => ((y : Int), r)
  | _ => (fixed? 4 s).map fun (y, r) => ((y : Int), r)

/-- A date, given how its year is read. -/
def date? (year? : Read Int) : Read Date := fun s => do
  let (year, s) ← year? s
  let (month, s) ← fixed? 2 (← after? '-' s)
  let (day, s) ← fixed? 2 (← after? '-' s)
  return (← Date.of? year month day, s)

/-- Hours, minutes and seconds. -/
def clock? : Read (Nat × Nat × Nat) := fun s => do
  let (hour, s) ← fixed? 2 s
  let (minute, s) ← fixed? 2 (← after? ':' s)
  let (second, s) ← fixed? 2 (← after? ':' s)
  return ((hour, minute, second), s)

/-- The nanoseconds of the digits of a fraction. Digits after the ninth are dropped. -/
def nanoseconds (ds : List Char) : Nat :=
  let ds := ds.take 9
  (Decimal.valueFrom? 0 (ds ++ List.replicate (9 - ds.length) '0')).getD 0

/-- A point and at least one digit; without them nothing is read and the fraction is zero. -/
def fraction (s : List Char) : Nat × List Char :=
  match s with
  | '.' :: rest =>
    let ds := rest.takeWhile Char.isDigit
    if ds.isEmpty then (0, s) else (nanoseconds ds, rest.dropWhile Char.isDigit)
  | _ => (0, s)

/-- A date, a separator and a time of day, and nothing after them. -/
def Timestamp.separated? (separator : Char) (s : List Char) : Option Timestamp := do
  let (date, s) ← date? signedYear? s
  let ((hour, minute, second), s) ← clock? (← after? separator s)
  let (nanosecond, s) := fraction s
  if s.isEmpty then return ⟨date, ← TimeOfDay.of? hour minute second nanosecond⟩ else none

def Date.ofText? (text : String) : Option Date :=
  match date? signedYear? text.toList with
  | some (d, []) => some d
  | _ => none

/-- Reads a timestamp as results carry it. -/
def Timestamp.ofText? (text : String) : Option Timestamp :=
  Timestamp.separated? ' ' text.toList

/-- An offset from universal time in minutes: `Z`, or a sign, hours and minutes. -/
def offset? : Read Int := fun s =>
  let hours (sign : Int) (s : List Char) : Option (Int × List Char) := do
    let (hour, s) ← fixed? 2 s
    let (minute, s) ← fixed? 2 (← after? ':' s)
    if hour ≤ 23 ∧ minute ≤ 59 then return (sign * (hour * 60 + minute : Nat), s) else none
  match s with
  | 'Z' :: rest | 'z' :: rest => some (0, rest)
  | '+' :: rest => hours 1 rest
  | '-' :: rest => hours (-1) rest
  | _ => none

/-- Whether a universal time is the last second of a month. -/
def Timestamp.endsMonth (t : Timestamp) : Bool :=
  t.time.seconds = 86399 && t.date.day = daysInMonth t.date.year t.date.month

/-- The parts of a text with an offset: the local timestamp, the offset in minutes, and whether
the second is a leap second, which is read as the nanosecond before it. -/
def zoned? (s : List Char) : Option (Timestamp × Int × Bool) := do
  let (date, s) ← date? (fun s => (fixed? 4 s).map fun (y, r) => ((y : Int), r)) s
  let separator ← s.head?
  let ((hour, minute, second), s) ← clock? s.tail
  if 0x80 ≤ separator.toNat then none
  else if s.head? = some '.' ∧ (fraction s).2 = s then none
  let (nanosecond, s) := fraction s
  let (offset, s) ← offset? s
  let leap := second = 60
  let time ← if leap then TimeOfDay.of? hour minute 59 999999999
    else TimeOfDay.of? hour minute second nanosecond
  if s.isEmpty then return (⟨date, time⟩, offset, leap) else none

/-- Why a text is no timestamp of a load. -/
inductive InputFault where
  | malformed
  /-- The universal time lies outside the range of dates. -/
  | outOfRange
  deriving DecidableEq, Repr

/-- Reads a timestamp with an offset as universal time. A leap second counts only at the end of a
month. -/
def Timestamp.ofZoned (s : List Char) : Except InputFault Timestamp :=
  match zoned? s with
  | none => .error .malformed
  | some (t, offset, leap) =>
    match t.minus? offset with
    | some u => if leap && !u.endsMonth then .error .malformed else .ok u
    | none => .error (if leap then .malformed else .outOfRange)

/-- Reads a timestamp as loads carry it. -/
def Timestamp.ofInput (text : String) : Except InputFault Timestamp :=
  match Timestamp.ofZoned text.toList with
  | .error .malformed =>
    match Timestamp.separated? 'T' text.toList with
    | some t => .ok t
    | none => .error .malformed
  | answer => answer

/-! ## Writing -/

def yearText (year : Int) : List Char :=
  (if year < 0 then ['-'] else []) ++ Decimal.padded 4 year.natAbs

def Date.chars (d : Date) : List Char :=
  yearText d.year ++ '-' :: Decimal.padded 2 d.month ++ '-' :: Decimal.padded 2 d.day

def TimeOfDay.clockChars (t : TimeOfDay) : List Char :=
  Decimal.padded 2 t.hour ++ ':' :: Decimal.padded 2 t.minute ++ ':' :: Decimal.padded 2 t.second

/-- The digits of a fraction of a second, without zeros at the end. -/
def fractionDigits (nanosecond : Nat) : List Char :=
  ((Decimal.padded 9 nanosecond).reverse.dropWhile (· = '0')).reverse

def fractionChars (nanosecond : Nat) : List Char :=
  if nanosecond = 0 then [] else '.' :: fractionDigits nanosecond

def Timestamp.chars (separator : Char) (t : Timestamp) : List Char :=
  t.date.chars ++ separator :: t.time.clockChars ++ fractionChars t.time.nanosecond

def Date.text (d : Date) : String :=
  String.ofList d.chars

/-- The text of a timestamp as results carry it. -/
def Timestamp.text (t : Timestamp) : String :=
  String.ofList (t.chars ' ')

/-- The text of a timestamp as loads carry it. -/
def Timestamp.inputText (t : Timestamp) : String :=
  String.ofList (t.chars 'T' ++ ['Z'])

/-- The text of a timestamp in diagnostics: the hour is not filled up, and there always is a
fraction. -/
def Timestamp.detailed (t : Timestamp) : String :=
  let ds := fractionDigits t.time.nanosecond
  String.ofList (t.date.chars ++ ' ' :: Decimal.digits t.time.hour
    ++ ':' :: Decimal.padded 2 t.time.minute ++ ':' :: Decimal.padded 2 t.time.second
    ++ '.' :: (if ds.isEmpty then ['0'] else ds))

end QueryClient.Calendar
