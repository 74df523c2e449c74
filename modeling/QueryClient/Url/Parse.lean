import QueryClient.Text.Blank
import QueryClient.Url.Basic

/-!
# Reading URLs

`Url.parse` reads a URL by itself and `Url.join` one that may be relative to another. Tabs and line
ends do not count anywhere in the text, nor do blanks and controls around it. What a text may leave
out, and whether a backslash is a slash, depends on the kind of its scheme.
-/

namespace QueryClient.Url

open QueryClient.Text

/-- The characters of a text that count. -/
def significant (text : String) : List Char :=
  (trimWhile (·.toNat ≤ 0x20) text.toList).filter fun c => c ≠ '\t' ∧ c ≠ '\n' ∧ c ≠ '\r'

/-- Whether a character separates the segments of a path. -/
def isSlash (k : SchemeKind) (c : Char) : Bool :=
  c = '/' || (k.isSpecial && c = '\\')

/-! ## Schemes -/

def isSchemeChar (c : Char) : Bool :=
  c.isAlphanum || c = '+' || c = '-' || c = '.'

/-- A scheme in lower case, and what comes after its colon. -/
def scheme? (s : List Char) : Option (String × List Char) :=
  let name := s.takeWhile isSchemeChar
  match s.dropWhile isSchemeChar with
  | ':' :: rest =>
    if name.head?.any Char.isAlpha then some (String.ofList (name.map Char.toLower), rest) else none
  | _ => none

/-! ## Queries and fragments -/

def encodeText (set : EncodeSet) (s : List Char) : String :=
  String.ofList (Percent.encode set s)

/-- What comes after the hash sign. -/
def fragment? (s : List Char) : Option String :=
  match s.dropWhile (· ≠ '#') with
  | _ :: rest => some (encodeText fragmentSet rest)
  | [] => none

/-- What comes between the question mark and the hash sign. -/
def query? (k : SchemeKind) (s : List Char) : Option String :=
  match s.takeWhile (· ≠ '#') with
  | '?' :: q => some (encodeText (if k.isSpecial then specialQuerySet else querySet) q)
  | _ => none

/-- The text up to the query or the fragment, and the rest. -/
def splitPath (s : List Char) : List Char × List Char :=
  let isPath (c : Char) : Bool := c ≠ '?' && c ≠ '#'
  (s.takeWhile isPath, s.dropWhile isPath)

/-! ## Paths -/

/-- A dot, or the triple that stands for one. -/
def dot? : List Char → Option (List Char)
  | '.' :: rest => some rest
  | '%' :: '2' :: 'e' :: rest | '%' :: '2' :: 'E' :: rest => some rest
  | _ => none

def isSingleDot (s : List Char) : Bool :=
  dot? s = some []

def isDoubleDot (s : List Char) : Bool :=
  (dot? s).any isSingleDot

/-- A letter and a colon or a bar; such a segment is never left by a double dot. -/
def isDriveLetter : List Char → Bool
  | [c, d] => c.isAlpha && (d = ':' || d = '|')
  | _ => false

/-- Leaves the last of reversed segments. -/
def leave : List (List Char) → List (List Char)
  | [] => []
  | s :: rest => if isDriveLetter s then s :: rest else rest

/-- The segments that follow reversed ones. After dots at the end comes an empty segment. -/
def resolve (done : List (List Char)) : List (List Char) → List (List Char)
  | [] => done.reverse
  | [s] =>
    if isDoubleDot s then ([] :: leave done).reverse
    else if isSingleDot s then ([] :: done).reverse
    else (s :: done).reverse
  | s :: rest =>
    if isDoubleDot s then resolve (leave done) rest
    else if isSingleDot s then resolve done rest
    else resolve (s :: done) rest

/-- The segments of a path without its first slash, read after the segments of another. -/
def segmentsFrom (k : SchemeKind) (before : List String) (s : List Char) : Path :=
  let parts := (s.splitOnP (isSlash k)).map (Percent.encode pathSet)
  .segments ((resolve (before.map String.toList).reverse parts).map String.ofList)

/-- The path after an authority. -/
def pathAfter (k : SchemeKind) (s : List Char) : Path :=
  match s with
  | [] => if k.isSpecial then .segments [""] else .segments []
  | c :: rest => segmentsFrom k [] (if isSlash k c then rest else s)

/-! ## Authorities -/

/-- Reads a port up to the path. -/
def port? (scheme : String) (s : List Char) : Except Fault (Option Nat × List Char) :=
  let digits := s.takeWhile Char.isDigit
  let rest := s.dropWhile Char.isDigit
  match Decimal.value? digits with
  | none => if ends rest then .ok (none, rest) else .error .invalidPort
  | some n =>
    if n ≤ 65535 ∧ ends rest then
      .ok (if defaultPort? scheme = some n then none else some n, rest)
    else .error .invalidPort
where
  /-- Whether the authority is over. -/
  ends : List Char → Bool
    | [] => true
    | c :: _ => c = '/' || c = '\\' || c = '?' || c = '#'

/-- Whether a character ends an authority. -/
def endsAuthority (k : SchemeKind) (c : Char) : Bool :=
  isSlash k c || c = '?' || c = '#'

/-- A user and a password, before the last at sign of an authority. -/
structure Userinfo where
  username : String
  password : Option String

def Userinfo.isEmpty (u : Userinfo) : Bool :=
  u.username.isEmpty && u.password.isNone

/-- An empty password is none. -/
def Userinfo.ofChars (s : List Char) : Userinfo where
  username := encodeText userinfoSet (s.takeWhile (· ≠ ':'))
  password :=
    match s.dropWhile (· ≠ ':') with
    | _ :: c :: rest => some (encodeText userinfoSet (c :: rest))
    | _ => none

/-- The user of an authority and the text after the at sign. -/
def userinfo (k : SchemeKind) (s : List Char) : Except Fault (Userinfo × List Char) :=
  let authority := s.takeWhile (!endsAuthority k ·)
  let rest := s.dropWhile (!endsAuthority k ·)
  let host := (authority.reverse.takeWhile (· ≠ '@')).reverse
  if host.length = authority.length then .ok (⟨"", none⟩, s)
  else
    let user := authority.take (authority.length - host.length - 1)
    if user.isEmpty ∧ host.isEmpty ∧ !rest.isEmpty then .error .emptyHost
    else .ok (.ofChars user, host ++ rest)

/-- The text of a host and the text after it; a colon between brackets belongs to the host. -/
def splitHost (k : SchemeKind) : Bool → List Char → List Char × List Char
  | _, [] => ([], [])
  | isBracketed, c :: rest =>
    if (c = ':' && !isBracketed) || endsAuthority k c then ([], c :: rest)
    else
      let isBracketed := if c = '[' then true else if c = ']' then false else isBracketed
      let (host, rest) := splitHost k isBracketed rest
      (c :: host, rest)

/-- The host of a scheme other than `file`. -/
def hostOf (k : SchemeKind) (s : List Char) : Except Fault Host :=
  if k.isSpecial then (if s.isEmpty then .error .emptyHost else Host.special s) else Host.verbatim s

/-- The rest of a URL after its authority. -/
def finish (scheme : String) (authority : Option Authority) (path : List Char → Path)
    (s : List Char) : Url :=
  let k := SchemeKind.ofScheme scheme
  let (p, rest) := splitPath s
  { scheme, authority, path := path p, query := query? k rest, fragment := fragment? rest }

/-- The URL after its scheme and two slashes. -/
def afterSlashes (scheme : String) (s : List Char) : Except Fault Url := do
  let k := SchemeKind.ofScheme scheme
  let (user, s) ← userinfo k s
  let (hostText, s) := splitHost k false s
  let host ← hostOf k hostText
  let isPort := s.head? = some ':'
  if host.isEmpty ∧ isPort then throw .emptyHost
  let (port, s) ← if isPort then port? scheme s.tail else pure (none, s)
  if host.isEmpty ∧ !user.isEmpty then throw .emptyHost
  return finish scheme (some ⟨user.username, user.password, host, port⟩) (pathAfter k) s

/-! ## Whole URLs -/

/-- The host of a file; the local one and a drive letter are none. -/
def fileHost (s : List Char) : Except Fault Host :=
  if s.isEmpty ∨ isDriveLetter s then .ok (.name "")
  else (Host.special s).map fun h => if h = .name "localhost" then .name "" else h

/-- A file URL after its scheme; without two slashes it has no host. -/
def ofFile (s : List Char) : Except Fault Url :=
  let isHostNext := s.length ≥ 2 && (s.take 2).all (isSlash .file)
  let isHostChar (c : Char) : Bool := !endsAuthority .file c
  if isHostNext then do
    let host ← fileHost ((s.drop 2).takeWhile isHostChar)
    return finish "file" (some { host }) (pathAfter .file) ((s.drop 2).dropWhile isHostChar)
  else .ok (finish "file" (some { host := .name "" }) (pathAfter .file) s)

/-- A URL with a scheme that is not special. -/
def ofOther (scheme : String) (s : List Char) : Except Fault Url :=
  match s with
  | '/' :: '/' :: rest => afterSlashes scheme rest
  | '/' :: rest => .ok (finish scheme none (segmentsFrom .other []) rest)
  | _ => .ok (finish scheme none (fun p => .undivided (encodeText isControl p)) s)

/-- A URL with a scheme, read without regard to any other. -/
def ofScheme (scheme : String) (s : List Char) : Except Fault Url :=
  match SchemeKind.ofScheme scheme with
  | .file => ofFile s
  | .special => afterSlashes scheme (s.dropWhile (isSlash .special))
  | .other => ofOther scheme s

def parse (text : String) : Except Fault Url :=
  match scheme? (significant text) with
  | some (scheme, rest) => ofScheme scheme rest
  | none => .error .noBase

/-- A text without a scheme of its own, read from a special URL. -/
def relative (base : Url) (segments : List String) (s : List Char) : Except Fault Url :=
  match s with
  | [] => .ok { base with fragment := none }
  | '?' :: _ => .ok { base with query := query? .special s, fragment := fragment? s }
  | '#' :: _ => .ok { base with fragment := fragment? s }
  | '/' :: '/' :: rest => afterSlashes base.scheme rest
  | c :: rest =>
    if isSlash .special c then
      if rest.head?.any (isSlash .special) then
        afterSlashes base.scheme (s.dropWhile (isSlash .special))
      else .ok (finish base.scheme base.authority (segmentsFrom .special []) rest)
    else .ok (finish base.scheme base.authority (segmentsFrom .special segments.dropLast) s)

/-- Reads a URL that may leave out what it shares with a special one. -/
def join (base : Url) (text : String) : Except Fault Url :=
  let s := significant text
  match scheme? s, base.path with
  | some (scheme, rest), .segments l =>
    let slashes := (rest.takeWhile (isSlash .special)).length
    if SchemeKind.ofScheme scheme = .special ∧ scheme = base.scheme ∧ slashes < 2 then
      relative base l rest
    else ofScheme scheme rest
  | some (scheme, rest), .undivided _ => ofScheme scheme rest
  | none, .segments l => relative base l s
  | none, .undivided _ => if s.head? = some '#' then .ok { base with fragment := fragment? s }
    else .error .undividedBase

end QueryClient.Url
