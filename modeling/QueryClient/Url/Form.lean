import QueryClient.Url.Percent

/-!
# Form encoding

Names and values in a query: pairs are joined by `&`, a name and its value by `=`, and a blank is a
plus. Reading never fails: what is no pair is a name without a value, and bytes that are no UTF-8
become replacement characters.
-/

namespace QueryClient.Url.Form

open QueryClient.Text

/-! ## Reading -/

/-- A name or a value. -/
def decode (s : List Char) : String :=
  String.ofList
    (Utf8.decodeLossy (Percent.decode (s.map fun c => if c = '+' then ' ' else c)))

def pair (s : List Char) : String × String :=
  (decode (s.takeWhile (· ≠ '=')), decode (s.dropWhile (· ≠ '=')).tail)

def pairs (query : String) : List (String × String) :=
  ((query.toList.splitOnP (· = '&')).filter (· ≠ [])).map pair

/-! ## Writing -/

/-- The ASCII characters that are written by number. -/
def formSet : EncodeSet := fun c =>
  !(c.isAlphanum || c = '*' || c = '-' || c = '.' || c = '_')

def encode (s : String) : List Char :=
  s.toList.flatMap fun c => if c = ' ' then ['+'] else Percent.encodeChar formSet c

def encodePair (p : String × String) : List Char :=
  encode p.1 ++ '=' :: encode p.2

def encodePairs (l : List (String × String)) : String :=
  String.ofList (['&'].intercalate (l.map encodePair))

end QueryClient.Url.Form
