/-!
# Packed tables

A table from characters to rows of characters, as text. Every word gives what a row of consecutive
characters stands for: the number of the first one, a colon, and the texts of all of them between
commas, with points between the numbers of a text. All numbers are hexadecimal.
-/

namespace QueryClient.Unicode

/-- A row of consecutive characters and what each of them stands for. -/
structure PackedRow where
  first : Nat
  texts : List (List Char)

namespace Packed

def hexNumber (s : List Char) : Nat :=
  s.foldl (fun n c => n * 16 + (if c ≤ '9' then c.toNat - 0x30 else c.toNat - 0x57)) 0

def row (word : List Char) : PackedRow where
  first := hexNumber (word.takeWhile (· ≠ ':'))
  texts := ((word.dropWhile (· ≠ ':')).tail.splitOnP (· = ',')).map fun t =>
    (t.splitOnP (· = '.')).map fun n => Char.ofNat (hexNumber n)

def rows (lines : List String) : List PackedRow :=
  lines.flatMap fun l => (l.toList.splitOnP (· = ' ')).map row

/-- What a character stands for, if the table has it. -/
def lookup? (table : List PackedRow) (c : Char) : Option (List Char) :=
  table.findSome? fun r => if r.first ≤ c.toNat then r.texts[c.toNat - r.first]? else none

end Packed

end QueryClient.Unicode
