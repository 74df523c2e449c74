/-!
# Blank characters

`isBlank` is the Unicode property `White_Space`, and `trim` drops the blanks at both ends of a text.
A trimmed text is never longer than the text, which is what `trim_length_le` records.
-/

namespace QueryClient.Text

/-- The characters with the property `White_Space`. -/
def isBlank (c : Char) : Bool :=
  let n := c.toNat
  (0x09 ≤ n && n ≤ 0x0d) || n == 0x20 || n == 0x85 || n == 0xa0 || n == 0x1680
    || (0x2000 ≤ n && n ≤ 0x200a) || n == 0x2028 || n == 0x2029 || n == 0x202f
    || n == 0x205f || n == 0x3000

/-- The text without the characters of a class at its end. -/
def dropEndWhile (p : Char → Bool) (s : List Char) : List Char :=
  (s.reverse.dropWhile p).reverse

/-- The text without the characters of a class at either end. -/
def trimWhile (p : Char → Bool) (s : List Char) : List Char :=
  dropEndWhile p (s.dropWhile p)

/-- The text without the blanks at either end. -/
def trim (s : List Char) : List Char :=
  trimWhile isBlank s

theorem dropEndWhile_length_le (p : Char → Bool) (s : List Char) :
    (dropEndWhile p s).length ≤ s.length := by
  simpa [dropEndWhile] using (List.dropWhile_sublist p (l := s.reverse)).length_le

theorem trimWhile_length_le (p : Char → Bool) (s : List Char) :
    (trimWhile p s).length ≤ s.length :=
  Nat.le_trans (dropEndWhile_length_le p _) (List.dropWhile_sublist p).length_le

theorem trim_length_le (s : List Char) : (trim s).length ≤ s.length :=
  trimWhile_length_le isBlank s

end QueryClient.Text
