import QueryClient.Error
import QueryClient.SortedMap
import QueryClient.Statement
import QueryClient.Url.Parse

/-!
# Configurations

Everything that a client has to know before its first request. What is not set has a default, and
every timeout is at least a millisecond. `Config.endpoint` is the URL of the service; its host is read
once more there, under the stricter rules of HTTP.
-/

namespace QueryClient

open Text

/-! ## Durations -/

structure Duration where
  nanoseconds : Nat
  deriving DecidableEq, Repr

namespace Duration

def ofMilliseconds (n : Nat) : Duration := ⟨n * 1000000⟩

def ofSeconds (n : Nat) : Duration := ⟨n * 1000000000⟩

/-- The whole milliseconds of a duration. -/
def milliseconds (d : Duration) : Nat := d.nanoseconds / 1000000

/-- The least number of seconds that is not shorter. -/
def ceilSeconds (d : Duration) : Nat := (d.nanoseconds + 999999999) / 1000000000

/-- A duration that is not too short for a timeout. -/
def asTimeout (d : Duration) : Duration := ⟨max d.nanoseconds 1000000⟩

end Duration

/-! ## Credentials -/

structure Credentials where
  user : String
  password : Option String := none
  deriving DecidableEq, Repr

/-- The credentials in diagnostics, which do not tell the password. -/
def Credentials.detailed (c : Credentials) : String :=
  "BasicAuth \x7b user: " ++ Quoted.quote c.user ++ ", password: "
    ++ (if c.password.isSome then "Some(\"<HIDDEN>\")" else "None") ++ " \x7d"

/-! ## Transports -/

/-- How the service is reached. -/
inductive Transport where
  | http
  | https
  deriving DecidableEq, Repr

def Transport.text : Transport → String
  | .http => "http"
  | .https => "https"

def Transport.defaultPort : Transport → UInt16
  | .http => 80
  | .https => 443

/-! ## Configurations -/

structure Config where
  transport : Transport := .https
  /-- Whether the transport was named, rather than inferred. -/
  isExplicit : Bool := false
  sslMode : Option SslMode := none
  host : String := "localhost"
  port : Option UInt16 := none
  credentials : Credentials := { user := "root" }
  database : Option String := none
  tenant : Option String := none
  warehouse : Option String := none
  pagination : Pagination := {}
  pageTimeout : Option Duration := none
  connectTimeout : Option Duration := none
  loadTimeout : Option Duration := none
  /-- The settings that a session starts with. -/
  settings : SortedMap String := {}
  deriving DecidableEq, Repr

namespace Config

/-! ### Changes -/

/-- Names the transport; an option that asked for one is dropped. -/
def withTransport (c : Config) (t : Transport) : Config :=
  { c with transport := t, isExplicit := true, sslMode := none }

def withPageTimeout (c : Config) (d : Duration) : Config :=
  { c with pageTimeout := some d.asTimeout }

def withConnectTimeout (c : Config) (d : Duration) : Config :=
  { c with connectTimeout := some d.asTimeout }

def withLoadTimeout (c : Config) (d : Duration) : Config :=
  { c with loadTimeout := some d.asTimeout }

def withSetting (c : Config) (key value : String) : Config :=
  { c with settings := c.settings.insert key value }

/-! ### Effective values -/

def effectivePort (c : Config) : UInt16 :=
  c.port.getD c.transport.defaultPort

def effectivePageTimeout (c : Config) : Duration :=
  c.pageTimeout.getD (.ofSeconds 30)

def effectiveConnectTimeout (c : Config) : Duration :=
  c.connectTimeout.getD (.ofSeconds 10)

def effectiveLoadTimeout (c : Config) : Duration :=
  c.loadTimeout.getD (.ofSeconds 300)

/-- A short text of the configuration, without the password. -/
def text (c : Config) : String :=
  c.transport.text ++ "://" ++ c.credentials.user ++ "@" ++ c.host ++ ":"
    ++ Decimal.text c.effectivePort.toNat ++ "/" ++ c.database.getD ""

/-- The URL of the service. -/
def endpoint (c : Config) : Result Url :=
  match Url.parse (c.transport.text ++ "://" ++ c.host ++ ":"
      ++ Decimal.text c.effectivePort.toNat) with
  | .ok u => .ok u
  | .error fault => .error (.malformedDsn (.url fault))

end Config

end QueryClient
