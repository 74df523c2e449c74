import QueryClient.Text.Decimal

/-!
# IPv4 addresses in hosts

A host whose last part is a number is an address or nothing. Its parts are written in base ten, eight
or sixteen, and the last one fills all the bytes that the others leave.
-/

namespace QueryClient.Url.Ipv4

open QueryClient.Text

/-- The value of a digit in a base up to sixteen. -/
def digitIn? (base : Nat) (c : Char) : Option Nat :=
  let v :=
    if '0' ≤ c ∧ c ≤ '9' then c.toNat - 0x30
    else if 'a' ≤ c ∧ c ≤ 'f' then c.toNat - 0x57
    else if 'A' ≤ c ∧ c ≤ 'F' then c.toNat - 0x37
    else 16
  if v < base then some v else none

/-- The value of a row of digits, read after a number. -/
def valueIn? (base : Nat) : Nat → List Char → Option Nat
  | n, [] => some n
  | n, c :: cs => (digitIn? base c).bind fun d => valueIn? base (n * base + d) cs

/-- A part of an address. -/
def part? : List Char → Option Nat
  | [] => none
  | '0' :: 'x' :: ds | '0' :: 'X' :: ds => valueIn? 16 0 ds
  | '0' :: d :: ds => valueIn? 8 0 (d :: ds)
  | ds => valueIn? 10 0 ds

/-- The parts of a host between points, without an empty one at the end. -/
def parts (host : List Char) : List (List Char) :=
  let ps := host.splitOnP (· = '.')
  if ps.getLast? = some [] ∧ 1 < ps.length then ps.dropLast else ps

/-- Whether the last part of a host is a number. -/
def endsInNumber (host : List Char) : Bool :=
  match (parts host).getLast? with
  | none => false
  | some p => (p ≠ [] && p.all Char.isDigit) || (part? p).isSome

/-- The address of its numbers, the last one of them apart. -/
def ofNumbers? (leading : List Nat) (last : Nat) : Option Nat :=
  if 1 <<< (8 * (4 - leading.length)) ≤ last ∨ leading.any (255 < ·) then none
  else some (leading.foldl (fun n p => n * 256 + p) 0 <<< (8 * (4 - leading.length)) + last)

def ofHost? (host : List Char) : Option Nat := do
  let ps := parts host
  if 4 < ps.length then none
  else
    let ns ← ps.mapM part?
    ofNumbers? ns.dropLast (← ns.getLast?)

/-- Four numbers with points between them. -/
def chars (address : Nat) : List Char :=
  ['.'].intercalate ([24, 16, 8, 0].map fun k => Decimal.digits (address >>> k % 256))

end QueryClient.Url.Ipv4
