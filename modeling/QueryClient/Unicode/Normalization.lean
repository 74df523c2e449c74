import QueryClient.Unicode.Decompositions

/-!
# Canonical composition

`nfc` brings a text into normalization form C: every character is decomposed as far as possible,
neighbouring marks are put into the order of their classes, and what can be composed with the last
starter is. Hangul syllables are composed by calculation, everything else by table.
-/

namespace QueryClient.Unicode

def combiningClass (c : Char) : Nat :=
  match combiningClasses.find? fun r => r.1 ≤ c.toNat && c.toNat < r.2.1 with
  | some r => r.2.2
  | none => 0

/-! ## Decomposition -/

def composedTable : List PackedRow := Packed.rows composedText

def respelledTable : List PackedRow := Packed.rows respelledText

/-- A Hangul syllable as its two or three letters. -/
def hangul? (c : Char) : Option (List Char) :=
  let n := c.toNat
  if 0xac00 ≤ n ∧ n < 0xd7a4 then
    let s := n - 0xac00
    let lv := [Char.ofNat (0x1100 + s / 588), Char.ofNat (0x1161 + s % 588 / 28)]
    some (if s % 28 = 0 then lv else lv ++ [Char.ofNat (0x11a7 + s % 28)])
  else none

/-- The decomposition of a character; a composed one is taken apart at most as often as the first
argument says. -/
def decompose : Nat → Char → List Char
  | 0, c => [c]
  | n + 1, c =>
    match hangul? c, Packed.lookup? composedTable c, Packed.lookup? respelledTable c with
    | some cs, _, _ => cs
    | none, some cs, _ => cs.flatMap (decompose n)
    | none, none, some cs => cs
    | none, none, none => [c]

/-! ## Order -/

/-- A character with its class. -/
abbrev Classed := Nat × Char

/-- Puts a character after reversed others; a mark passes the marks of higher classes. -/
def insertMark (x : Classed) : List Classed → List Classed
  | [] => [x]
  | y :: ys => if x.1 ≠ 0 ∧ x.1 < y.1 then y :: insertMark x ys else x :: y :: ys

def ordered (s : List Char) : List Classed :=
  (s.foldl (fun acc c => insertMark (combiningClass c, c) acc) []).reverse

/-! ## Composition -/

/-- A Hangul letter or syllable and the letter that completes it. -/
def hangulPair? (a b : Char) : Option Char :=
  let m := a.toNat
  let n := b.toNat
  if 0x1100 ≤ m ∧ m < 0x1113 ∧ 0x1161 ≤ n ∧ n < 0x1176 then
    some (Char.ofNat (0xac00 + ((m - 0x1100) * 21 + (n - 0x1161)) * 28))
  else if 0xac00 ≤ m ∧ m < 0xd7a4 ∧ (m - 0xac00) % 28 = 0 ∧ 0x11a7 < n ∧ n < 0x11c3 then
    some (Char.ofNat (m + (n - 0x11a7)))
  else none

/-- The character that two others compose. -/
def pair? (a b : Char) : Option Char :=
  (hangulPair? a b).or (composedTable.findSome? fun r =>
    (r.texts.findIdx? (· = [a, b])).map fun i => Char.ofNat (r.first + i))

/-- Composition after a starter, with the marks that could not be composed, last first. -/
def composeAfter (starter : Char) (marks : List Classed) : List Classed → List Char
  | [] => starter :: marks.reverse.map (·.2)
  | x :: rest =>
    let isFree := marks.all (·.1 < x.1)
    match if isFree then pair? starter x.2 else none with
    | some c => composeAfter c marks rest
    | none =>
      if x.1 = 0 then starter :: (marks.reverse.map (·.2) ++ composeAfter x.2 [] rest)
      else composeAfter starter (x :: marks) rest

/-- Composition of a whole text; marks before its first starter stay as they are. -/
def compose : List Classed → List Char
  | [] => []
  | x :: rest => if x.1 = 0 then composeAfter x.2 [] rest else x.2 :: compose rest

def nfc (s : List Char) : List Char :=
  compose (ordered (s.flatMap (decompose 4)))

end QueryClient.Unicode
