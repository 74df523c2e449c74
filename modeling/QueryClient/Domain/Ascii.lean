import QueryClient.Domain.Punycode
import QueryClient.Unicode.Bidi
import QueryClient.Unicode.DomainCharacters
import QueryClient.Unicode.Joining
import QueryClient.Unicode.Mark
import QueryClient.Unicode.Normalization

/-!
# Domain names in ASCII

`toAscii?` answers the name that is looked up for a name in any script. Capitals and compatibility
characters are replaced, the text is brought into normalization form C, and every label with other
characters than ASCII is written in Punycode. A label that already is must decode to a label that this
could have written. Where the letters of a name run in both directions, or where they join, further
rules hold.
-/

namespace QueryClient.Domain

open QueryClient.Unicode

/-! ## Characters -/

def replacedTable : List PackedRow := Packed.rows replacedText

/-- The character of a row of replaced ones. -/
def replacedInRow? (c : Char) (r : Nat × Nat × Nat × Nat) : Option Char :=
  let (first, last, step, target) := r
  let n := c.toNat
  if first ≤ n ∧ n ≤ last ∧ (n - first) % step = 0 then some (Char.ofNat (target + (n - first)))
  else none

/-- What a character is replaced by, unless it may not stand in a name. -/
def replace? (c : Char) : Option (List Char) :=
  if inRanges forbiddenBounds c.toNat then none
  else if inRanges droppedBounds c.toNat then some []
  else
    match replacedRows.findSome? (replacedInRow? c) with
    | some d => some [d]
    | none => some ((Packed.lookup? replacedTable c).getD [c])

/-- Whether a character stands for itself. -/
def isKept (c : Char) : Bool :=
  replace? c = some [c]

/-- The ASCII characters that would end a host or be taken for another part of a URL. -/
def isDenied (c : Char) : Bool :=
  c.toNat ≤ 0x20 || c.toNat = 0x7f || c = '%' || c = '#' || c = '/' || c = ':' || c = '<' || c = '>'
    || c = '?' || c = '@' || c = '[' || c = '\\' || c = ']' || c = '^' || c = '|'

/-! ## Labels -/

def isVirama (c : Char) : Bool :=
  combiningClass c = 9

/-- Whether the letters on both sides of a non-joiner would join, given what is before it, last
character first, and what is after it. -/
def separatesJoined (before after : List Char) : Bool :=
  let isTransparent (c : Char) : Bool := inRanges transparentJoiningBounds c.toNat
  let isDual (c : Char) : Bool := inRanges dualJoiningBounds c.toNat
  ((before.dropWhile isTransparent).head?.any fun c => isDual c || inRanges leftJoiningBounds c.toNat)
    && ((after.dropWhile isTransparent).head?.any fun c =>
      isDual c || inRanges rightJoiningBounds c.toNat)

/-- Whether every joiner stands where it makes a difference. The first argument is what was passed,
last character first. -/
def joinersFit : List Char → List Char → Bool
  | _, [] => true
  | before, c :: rest =>
    let afterVirama := before.head?.any isVirama
    (if c.toNat = 0x200c then afterVirama || separatesJoined before rest
      else if c.toNat = 0x200d then afterVirama
      else true)
      && joinersFit (c :: before) rest

/-- Whether a label may stand in a name. -/
def isValidLabel (label : List Char) : Bool :=
  !(label.head?.any fun c => inRanges markBounds c.toNat) && joinersFit [] label

/-- A label as it is read and as it is looked up. -/
structure Label where
  read : List Char
  ascii : List Char

/-- The mark of a label in Punycode. -/
def mark : List Char := ['x', 'n', '-', '-']

/-- The greatest length of a label with other characters than ASCII. -/
def maxLength : Nat := 1000

/-- The greatest length of what stands after the mark of a label in Punycode. -/
def maxEncodedLength : Nat := 2000

/-- The label of a text whose characters were replaced. -/
def label? (s : List Char) : Option Label :=
  if mark.isPrefixOf s then
    if (s.drop 4).length ≤ maxEncodedLength then
      match Punycode.decode? (s.drop 4) with
      | none => none
      | some u =>
        if !u.all Punycode.isBasic && s.all Punycode.isBasic && u.all isKept && nfc u = u
            && isValidLabel u && u.length ≤ maxLength then
          some ⟨u, s⟩
        else none
    else none
  else if s.all Punycode.isBasic then some ⟨s, s⟩
  else if isValidLabel s && s.length ≤ maxLength then some ⟨s, mark ++ Punycode.encode s⟩
  else none

/-! ## Names -/

def toAscii? (name : List Char) : Option (List Char) := do
  let replaced ← name.mapM replace?
  let labels ← ((nfc replaced.flatten).splitOnP (· = '.')).mapM label?
  let ascii := ['.'].intercalate (labels.map (·.ascii))
  if obeysBidiRules (labels.map (·.read)) && !ascii.any isDenied then some ascii else none

end QueryClient.Domain
