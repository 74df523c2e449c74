import QueryClient.Domain.Ascii
import QueryClient.Url.Fault
import QueryClient.Url.Ipv6
import QueryClient.Url.Percent

/-!
# Hosts

Special schemes name a machine: their hosts are addresses or domain names, brought into one form. The
host of any other scheme is opaque; apart from IPv6 addresses its text is kept as it is written.
-/

namespace QueryClient.Url

open QueryClient.Text

inductive Host where
  | name (text : String)
  | ipv4 (address : Nat)
  | ipv6 (pieces : List Nat)
  deriving DecidableEq, Repr

def Host.text : Host → String
  | .name s => s
  | .ipv4 n => String.ofList (Ipv4.chars n)
  | .ipv6 ps => String.ofList ('[' :: Ipv6.chars ps ++ [']'])

def Host.isEmpty (h : Host) : Bool :=
  h = .name ""

/-- The address between brackets. -/
def bracketed (s : List Char) : Except Fault Host :=
  match s.getLast?, Ipv6.ofChars? s.dropLast with
  | some ']', some ps => .ok (.ipv6 ps)
  | _, _ => .error .invalidIpv6

/-- The characters that no opaque host may hold. -/
def isForbiddenInHost (c : Char) : Bool :=
  c = '\x00' || c = '\t' || c = '\n' || c = '\r' || c = ' ' || c = '#' || c = '/' || c = ':'
    || c = '<' || c = '>' || c = '?' || c = '@' || c = '[' || c = '\\' || c = ']' || c = '^'
    || c = '|'

def Host.verbatim (s : List Char) : Except Fault Host :=
  match s with
  | '[' :: rest => bracketed rest
  | _ =>
    if s.any isForbiddenInHost then .error .invalidHostCharacter
    else .ok (.name (String.ofList (Percent.encode isControl s)))

/-- The name in ASCII of a host whose triples were resolved. -/
def domain? (s : List Char) : Option (List Char) :=
  (Utf8.decode? (Percent.decode s)).bind Domain.toAscii?

def Host.special (s : List Char) : Except Fault Host :=
  match s with
  | '[' :: rest => bracketed rest
  | _ =>
    match domain? s with
    | none => .error .invalidInternationalHost
    | some [] => .error .emptyHost
    | some d =>
      if Ipv4.endsInNumber d then
        match Ipv4.ofHost? d with
        | some n => .ok (.ipv4 n)
        | none => .error .invalidIpv4
      else .ok (.name (String.ofList d))

end QueryClient.Url
