import QueryClient.Url.Host

/-!
# URLs

A URL in parts. A path is undivided, or a row of segments with a slash before each; a URL with an
authority has such a row, which is empty only where the scheme is not special. `Url.text` writes the
parts in order.
-/

namespace QueryClient

open Url Text

/-- How the rules of a scheme differ from those of the others. -/
inductive Url.SchemeKind where
  | file
  | special
  | other
  deriving DecidableEq, Repr

def Url.SchemeKind.ofScheme : String → SchemeKind
  | "http" | "https" | "ws" | "wss" | "ftp" => .special
  | "file" => .file
  | _ => .other

/-- Whether a backslash counts as a slash. -/
def Url.SchemeKind.isSpecial (k : SchemeKind) : Bool :=
  k ≠ .other

def Url.defaultPort? : String → Option Nat
  | "http" | "ws" => some 80
  | "https" | "wss" => some 443
  | "ftp" => some 21
  | _ => none

inductive Url.Path where
  | undivided (text : String)
  | segments (list : List String)
  deriving DecidableEq, Repr

structure Url.Authority where
  username : String := ""
  password : Option String := none
  host : Host
  port : Option Nat := none
  deriving DecidableEq, Repr

structure Url where
  scheme : String
  authority : Option Authority
  path : Path
  query : Option String := none
  fragment : Option String := none
  deriving DecidableEq, Repr

namespace Url

def kind (u : Url) : SchemeKind :=
  .ofScheme u.scheme

def Path.text : Path → String
  | .undivided s => s
  | .segments l => String.join (l.map ("/" ++ ·))

/-- The name of a user and a password, with what separates them from a host. -/
def Authority.userinfo (a : Authority) : String :=
  match a.password with
  | some p => a.username ++ ":" ++ p ++ "@"
  | none => if a.username.isEmpty then "" else a.username ++ "@"

def Authority.text (a : Authority) : String :=
  a.userinfo ++ a.host.text ++ (match a.port with
    | some p => ":" ++ Decimal.text p
    | none => "")

/-- A part of a URL with the character before it. -/
def marked (mark : String) : Option String → String
  | some s => mark ++ s
  | none => ""

/-- The path and the query, as a request asks for them. -/
def target (u : Url) : String :=
  u.path.text ++ marked "?" u.query

/-- What stands between the scheme and the path. Without an authority, two slashes at the start of
the path are kept from being taken for one. -/
def opening (u : Url) : String :=
  match u.authority with
  | some a => "//" ++ a.text
  | none => if u.path.text.startsWith "//" then "/." else ""

def text (u : Url) : String :=
  u.scheme ++ ":" ++ u.opening ++ u.target ++ marked "#" u.fragment

/-- The text of a host that is not empty. -/
def host? (u : Url) : Option String := do
  let a ← u.authority
  if a.host.isEmpty then none else some a.host.text

/-- The port, or else the one of the scheme. -/
def effectivePort? (u : Url) : Option Nat :=
  (u.authority.bind (·.port)).or (defaultPort? u.scheme)

end Url

end QueryClient
