import QueryClient.Config.Basic
import QueryClient.Url.Form

/-!
# Connection strings

A configuration as a URL. The user, the password and the database stand where a URL has them, all
else is an option of the query: nine options are known by name, and the others become settings of the
session. `Config.ofDsn` reads such a text and `Config.dsn` writes it.
-/

namespace QueryClient

open Text

def SslMode.ofText : String → Result SslMode
  | "disable" => .ok .disable
  | "require" => .ok .require
  | "enable" => .ok .enable
  | s => .error (.malformedDsn (.invalidSslMode s))

namespace Config

/-! ## Reading -/

/-- The transport that a scheme names, if it names one. -/
def transportOfScheme : String → Result (Option Transport)
  | "databend" => .ok none
  | "databend+http" => .ok (some .http)
  | "databend+https" => .ok (some .https)
  | s => .error (.malformedDsn (.unsupportedScheme s))

/-- A part of a URL with its triples resolved. -/
def decodePart (part : DsnPart) (s : String) : Result String :=
  match Utf8.decode? (Url.Percent.decode s.toList) with
  | some cs => .ok (String.ofList cs)
  | none => .error (.malformedDsn (.notUtf8 part))

def count (key value : String) : Result UInt64 :=
  match Decimal.readNat? (UInt64.size - 1) value.toList with
  | some n => .ok (UInt64.ofNat n)
  | none => .error (.malformedDsn (.invalidOption key value))

/-- A timeout of at least one second. -/
def seconds (key value : String) : Result Duration := do
  let n ← count key value
  if n = 0 then throw (.malformedDsn (.zeroSeconds key)) else return .ofSeconds n.toNat

/-- Takes an option over. -/
def withOption (c : Config) (key value : String) : Result Config :=
  match key with
  | "sslmode" => return { c with sslMode := some (← SslMode.ofText value) }
  | "wait_time_secs" =>
    return { c with pagination := { c.pagination with waitSeconds := some (← count key value) } }
  | "max_rows_in_buffer" =>
    return { c with pagination := { c.pagination with bufferRows := some (← count key value) } }
  | "max_rows_per_page" =>
    return { c with pagination := { c.pagination with pageRows := some (← count key value) } }
  | "page_request_timeout_secs" => return { c with pageTimeout := some (← seconds key value) }
  | "connect_timeout" => return { c with connectTimeout := some (← seconds key value) }
  | "load_timeout_secs" => return { c with loadTimeout := some (← seconds key value) }
  | "tenant" => return { c with tenant := some value }
  | "warehouse" => return { c with warehouse := some value }
  | _ => return c.withSetting key value

/-- Takes options over in order. -/
def withOptions (c : Config) : List (String × String) → Result Config
  | [] => .ok c
  | (key, value) :: rest => do (← c.withOption key value).withOptions rest

/-- The transport of a scheme and a mode, which must not contradict each other. -/
def transportOf (named : Option Transport) (mode : Option SslMode) : Result Transport :=
  match named, mode with
  | some .https, some .disable => .error (.malformedDsn .plainOverTls)
  | some .http, some .require => .error (.malformedDsn (.tlsOverPlain .require))
  | some .http, some .enable => .error (.malformedDsn (.tlsOverPlain .enable))
  | some t, _ => .ok t
  | none, some .disable => .ok .http
  | none, _ => .ok .https

/-- The database that a path names, which is all of it between its outermost slashes. -/
def databaseOfPath (path : String) : Result (Option String) :=
  match String.ofList (trimWhile (· = '/') path.toList) with
  | "" => .ok none
  | s => return some (← decodePart .database s)

/-- The configuration of a URL without its options. -/
def ofAuthority (u : Url) : Result Config :=
  match u.host?, u.authority with
  | some host, some a => do
    let user ← decodePart .user a.username
    let password ← a.password.mapM (decodePart .password)
    let database ← databaseOfPath u.path.text
    return { host, port := a.port.map UInt16.ofNat, credentials := ⟨user, password⟩, database }
  | _, _ => .error (.malformedDsn .missingHost)

def ofUrl (u : Url) : Result Config := do
  let named ← transportOfScheme u.scheme
  let c ← ofAuthority u
  let c ← c.withOptions (Url.Form.pairs (u.query.getD ""))
  let transport ← transportOf named c.sslMode
  return { c with transport, isExplicit := named.isSome }

def ofDsn (text : String) : Result Config :=
  match Url.parse text with
  | .ok u => ofUrl u
  | .error fault => .error (.malformedDsn (.url fault))

/-! ## Writing -/

/-- The scheme of a connection string, which names the transport only if it was named. -/
def dsnScheme (c : Config) : String :=
  if c.isExplicit then "databend+" ++ c.transport.text else "databend"

def encodePart (s : String) : String :=
  Url.encodeText Url.componentSet s.toList

/-- An option that is left out when it has no value. -/
def dsnOption {α : Type} (key : String) (text : α → String) (value : Option α) :
    List (String × String) :=
  match value with
  | some v => [(key, text v)]
  | none => []

/-- All options that are set, in a fixed order, and the settings after them. -/
def dsnOptions (c : Config) : List (String × String) :=
  let count (n : UInt64) : String := Decimal.text n.toNat
  let seconds (d : Duration) : String := Decimal.text d.ceilSeconds
  dsnOption "sslmode" SslMode.text c.sslMode
    ++ dsnOption "wait_time_secs" count c.pagination.waitSeconds
    ++ dsnOption "max_rows_in_buffer" count c.pagination.bufferRows
    ++ dsnOption "max_rows_per_page" count c.pagination.pageRows
    ++ dsnOption "page_request_timeout_secs" seconds c.pageTimeout
    ++ dsnOption "connect_timeout" seconds c.connectTimeout
    ++ dsnOption "load_timeout_secs" seconds c.loadTimeout
    ++ dsnOption "tenant" id c.tenant
    ++ dsnOption "warehouse" id c.warehouse
    ++ c.settings.entries

def dsn (c : Config) : String :=
  let query := Url.Form.encodePairs c.dsnOptions
  c.dsnScheme ++ "://" ++ encodePart c.credentials.user
    ++ (match c.credentials.password with
      | some p => ":" ++ encodePart p
      | none => "")
    ++ "@" ++ c.host
    ++ (match c.port with
      | some p => ":" ++ Decimal.text p.toNat
      | none => "")
    ++ "/" ++ encodePart (c.database.getD "")
    ++ (if query.isEmpty then "" else "?" ++ query)

end Config

end QueryClient
