import QueryClient.Unicode.BidiRanges

/-!
# Labels with letters of both directions

In a name that holds letters written from right to left, every label has to obey a rule that keeps it
readable: its first letter sets its direction, only some classes may follow, and a label from right
to left does not mix two kinds of numbers.
-/

namespace QueryClient.Unicode

inductive BidiClass where
  | leftToRight
  | rightToLeft
  | arabicLetter
  | arabicNumber
  | europeanNumber
  | europeanSeparator
  | europeanTerminator
  | commonSeparator
  | nonspacingMark
  | boundaryNeutral
  | otherNeutral
  deriving DecidableEq, Repr

open BidiClass

/-- All classes but the first one, with their ranges. -/
def bidiRanges : List (BidiClass × List Nat) :=
  [(rightToLeft, rightToLeftBounds), (arabicLetter, arabicLetterBounds),
   (arabicNumber, arabicNumberBounds), (europeanNumber, europeanNumberBounds),
   (europeanSeparator, europeanSeparatorBounds), (europeanTerminator, europeanTerminatorBounds),
   (commonSeparator, commonSeparatorBounds), (nonspacingMark, nonspacingMarkBounds),
   (boundaryNeutral, boundaryNeutralBounds), (otherNeutral, otherNeutralBounds)]

def bidiClass (c : Char) : BidiClass :=
  match bidiRanges.find? fun r => inRanges r.2 c.toNat with
  | some r => r.1
  | none => leftToRight

/-- Whether a class makes a name one with both directions. -/
def BidiClass.isRightward : BidiClass → Bool
  | rightToLeft | arabicLetter | arabicNumber => true
  | _ => false

/-- The classes that a label of either direction may hold. -/
def BidiClass.isNeutral : BidiClass → Bool
  | europeanNumber | europeanSeparator | commonSeparator | europeanTerminator | otherNeutral
  | boundaryNeutral | nonspacingMark => true
  | _ => false

/-- The rule for a label in a name with both directions. -/
def obeysBidiRule (label : List Char) : Bool :=
  let classes := label.map bidiClass
  let last := (classes.reverse.dropWhile (· = nonspacingMark)).head?
  match classes with
  | [] => true
  | leftToRight :: rest =>
    rest.all (fun k => k = leftToRight || k.isNeutral)
      && last.all fun k => k = leftToRight || k = europeanNumber
  | first :: rest =>
    (first = rightToLeft || first = arabicLetter)
      && rest.all (fun k => k.isRightward || k.isNeutral)
      && last.all (fun k => k.isRightward || k = europeanNumber)
      && !(rest.contains arabicNumber && rest.contains europeanNumber)

/-- The rule for all labels of a name. -/
def obeysBidiRules (labels : List (List Char)) : Bool :=
  !(labels.any fun l => l.any fun c => (bidiClass c).isRightward) || labels.all obeysBidiRule

end QueryClient.Unicode
