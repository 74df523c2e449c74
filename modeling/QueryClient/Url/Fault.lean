/-!
# Why a text is no URL
-/

namespace QueryClient.Url

inductive Fault where
  | noBase
  | emptyHost
  | invalidPort
  | invalidIpv4
  | invalidIpv6
  | invalidHostCharacter
  | invalidInternationalHost
  | undividedBase
  deriving DecidableEq, Repr

def Fault.message : Fault → String
  | .noBase => "relative URL without a base"
  | .emptyHost => "empty host"
  | .invalidPort => "invalid port number"
  | .invalidIpv4 => "invalid IPv4 address"
  | .invalidIpv6 => "invalid IPv6 address"
  | .invalidHostCharacter => "invalid domain character"
  | .invalidInternationalHost => "invalid international domain name"
  | .undividedBase => "relative URL with a cannot-be-a-base base"

end QueryClient.Url
