import QueryClient.Unicode.NonGraphic
import QueryClient.Unicode.GraphemeExtend

/-!
# Quoted text

A text as it is shown to a reader of diagnostics: in double quotes, with a backslash form for the
quote, the backslash and some controls, and a numeric form for every other character that would be
invisible or would fuse with its neighbour.
-/

namespace QueryClient.Text.Quoted

open QueryClient.Unicode

/-- Letters without a glyph, which fill an empty place in a Hangul syllable. -/
def isFiller (c : Char) : Bool :=
  c = '\u115f' || c = '\u1160' || c = '\u3164' || c = '\uffa0'

/-- Sound marks of Katakana that extend the letter before them and yet have a place of their own. -/
def isSpacingSoundMark (c : Char) : Bool :=
  c = '\uff9e' || c = '\uff9f'

/-- Whether a character is shown by its code point. -/
def isHidden (c : Char) : Bool :=
  if c.toNat < 0x7f then c.toNat < 0x20
  else inRanges nonGraphicBounds c.toNat || isFiller c
    || (inRanges graphemeExtendBounds c.toNat && !isSpacingSoundMark c)

/-- The form of one character between quotes. -/
def escape (c : Char) : List Char :=
  match c with
  | '\x00' => ['\\', '0']
  | '\t' => ['\\', 't']
  | '\r' => ['\\', 'r']
  | '\n' => ['\\', 'n']
  | '\\' => ['\\', '\\']
  | '"' => ['\\', '"']
  | c => if isHidden c then ['\\', 'u', '{'] ++ Nat.toDigits 16 c.toNat ++ ['}'] else [c]

/-- A text in quotes. -/
def quote (s : String) : String :=
  String.ofList ('"' :: s.toList.flatMap escape ++ ['"'])

end QueryClient.Text.Quoted
