import QueryClient.Error
import QueryClient.SortedMap
import QueryClient.Text.Utf8

/-!
# Header fields

The names of header fields do not depend on the case of letters, so they are kept in lower case and a
later field replaces an earlier one of its name. A value may hold any characters but controls; a tab
is none here.
-/

namespace QueryClient.Http

open QueryClient.Text

/-- The fields of a request by name. -/
abbrev Headers := SortedMap String

def isNameChar (c : Char) : Bool :=
  c.isAlphanum || c = '!' || c = '#' || c = '$' || c = '%' || c = '&' || c = '\'' || c = '*'
    || c = '+' || c = '-' || c = '.' || c = '^' || c = '_' || c.toNat = 0x60 || c = '|' || c = '~'

def isName (s : String) : Bool :=
  !s.isEmpty && s.toList.all isNameChar && s.length < 65536

def isValueChar (c : Char) : Bool :=
  (0x20 ≤ c.toNat && c.toNat ≠ 0x7f) || c = '\t'

def isValue (s : String) : Bool :=
  s.toList.all isValueChar

def canonicalName (s : String) : String :=
  String.ofList (s.toList.map Char.toLower)

/-- Adds a field, if its name and its value are valid. -/
def insertHeader (h : Headers) (name value : String) : Result Headers :=
  if !isName name then .error (.invalidArgument (.headerName name))
  else if !isValue value then .error (.invalidArgument (.headerValue (canonicalName name)))
  else .ok (h.insert (canonicalName name) value)

/-- Adds fields in order. -/
def insertHeaders (h : Headers) : List (String × String) → Result Headers
  | [] => .ok h
  | (name, value) :: rest => do insertHeaders (← insertHeader h name value) rest

end QueryClient.Http
