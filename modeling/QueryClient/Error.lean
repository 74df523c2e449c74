import QueryClient.Url.Fault
import QueryClient.Value.Basic

/-!
# Errors

Every way in which an operation of the client can fail, as a cause with the data that it concerns.
The wording stands in `message` alone, so that two failures are told apart by their causes and never
by their texts. `Error.isRetryable` holds of connection failures and timeouts only: the statement
may not have reached the service.
-/

namespace QueryClient

open QueryClient.Text

/-! ## Connection strings -/

inductive SslMode where
  | disable
  | require
  | enable
  deriving DecidableEq, Repr

def SslMode.text : SslMode → String
  | .disable => "disable"
  | .require => "require"
  | .enable => "enable"

inductive DsnPart where
  | user
  | password
  | database
  deriving DecidableEq, Repr

def DsnPart.text : DsnPart → String
  | .user => "user"
  | .password => "password"
  | .database => "database"

inductive DsnFault where
  | url (fault : Url.Fault)
  | unsupportedScheme (scheme : String)
  | missingHost
  | notUtf8 (part : DsnPart)
  | invalidSslMode (text : String)
  | invalidOption (key value : String)
  | zeroSeconds (key : String)
  /-- The scheme asks for TLS and `sslmode` forbids it. -/
  | plainOverTls
  /-- The scheme forbids TLS and `sslmode` asks for it. -/
  | tlsOverPlain (mode : SslMode)
  | integer (fault : Decimal.Fault)
  | described (text : String)
  deriving DecidableEq, Repr

def integerMessage : Decimal.Fault → String
  | .empty => "cannot parse integer from empty string"
  | .invalidDigit => "invalid digit found in string"
  | .tooLarge => "number too large to fit in target type"

def DsnFault.message : DsnFault → String
  | .url fault => fault.message
  | .unsupportedScheme scheme => "unsupported scheme `" ++ scheme ++ "`"
  | .missingHost => "missing host"
  | .notUtf8 part => part.text ++ " is not valid UTF-8"
  | .invalidSslMode text => "invalid value for sslmode: " ++ text
  | .invalidOption key value => "invalid value for " ++ key ++ ": " ++ value
  | .zeroSeconds key => key ++ " must be at least one second"
  | .plainOverTls => "sslmode=disable conflicts with databend+https"
  | .tlsOverPlain mode => "sslmode=" ++ mode.text ++ " conflicts with databend+http"
  | .integer fault => "invalid integer option: " ++ integerMessage fault
  | .described text => text

/-! ## Transport -/

inductive TransportKind where
  | connectFailed
  | timeout
  | protocolViolation
  deriving DecidableEq, Repr

def TransportKind.text : TransportKind → String
  | .connectFailed => "connect failed"
  | .timeout => "timeout"
  | .protocolViolation => "protocol violation"

/-- How reading from or writing to a file or a socket fails. -/
inductive IoFailure where
  | timedOut
  | invalidData
  | unexpectedEnd
  | other
  deriving DecidableEq, Repr

def IoFailure.kind : IoFailure → TransportKind
  | .timedOut => .timeout
  | .invalidData | .unexpectedEnd => .protocolViolation
  | .other => .connectFailed

/-- How an HTTP exchange breaks off before a whole answer is there. -/
inductive ExchangeFailure where
  | invalidUserAgent
  | unsupportedScheme
  | refused
  | closed
  | timedOut
  | cutShort
  deriving DecidableEq, Repr

def ExchangeFailure.kind : ExchangeFailure → TransportKind
  | .timedOut => .timeout
  | .cutShort => .protocolViolation
  | _ => .connectFailed

/-- What the HTTP library says of its failures is not kept; the wording stands for it. -/
def ExchangeFailure.message : ExchangeFailure → String
  | .invalidUserAgent => "the user agent is no header value"
  | .unsupportedScheme => "the scheme of the URL is not supported"
  | .refused => "the connection was refused"
  | .closed => "the connection was closed before the answer"
  | .timedOut => "the request timed out"
  | .cutShort => "the answer ended before its announced length"

inductive TransportFault where
  | exchange (failure : ExchangeFailure)
  | io (failure : IoFailure) (text : String)
  | invalidEnvelope
  | invalidUri (uri : String) (fault : Url.Fault)
  | unsupportedType (tag : String)
  | rowWidth (row found expected : Nat)
  | rowCount (acknowledged sent : Nat)
  | described (kind : TransportKind) (text : String)
  deriving DecidableEq, Repr

def TransportFault.kind : TransportFault → TransportKind
  | .exchange failure => failure.kind
  | .io failure _ => failure.kind
  | .described kind _ => kind
  | _ => .protocolViolation

/-- The wording of an invalid envelope stands for what the JSON library says of it, which is not
kept. -/
def TransportFault.message : TransportFault → String
  | .exchange failure => failure.message
  | .io _ text => text
  | .invalidEnvelope => "invalid response envelope"
  | .invalidUri uri fault => "invalid uri `" ++ uri ++ "`: " ++ fault.message
  | .unsupportedType tag => "unsupported column type `" ++ tag ++ "`"
  | .rowWidth row found expected =>
    "row " ++ Decimal.text row ++ " has " ++ Decimal.text found ++ " fields, the schema has " ++ Decimal.text expected
      ++ " columns"
  | .rowCount acknowledged sent =>
    "server acknowledged " ++ Decimal.text acknowledged ++ " rows of a " ++ Decimal.text sent ++ " row load"
  | .described _ text => text

/-! ## Arguments -/

inductive ArgumentFault where
  | headerName (name : String)
  | headerValue (name : String)
  /-- Neither an option nor the extension of a file tells its format. -/
  | unknownFormat (path : String)
  | unreadable (path reason : String)
  /-- The dialect of a load was changed after a row was accepted. -/
  | lateDialect
  | described (text : String)
  deriving DecidableEq, Repr

def ArgumentFault.message : ArgumentFault → String
  | .headerName name => "invalid header name " ++ name
  | .headerValue name => "value for header " ++ name ++ " contains control characters"
  | .unknownFormat path => "cannot tell the format of " ++ path ++ " from its extension"
  | .unreadable path reason => "cannot read " ++ path ++ ": " ++ reason
  | .lateDialect => "the load format cannot change once rows were sent"
  | .described text => text

/-! ## Conversions -/

/-- The types that a value can be read as. -/
inductive Scalar where
  | int64
  | uint64
  | float64
  | int32
  | uint32
  | string
  | date
  | timestamp
  deriving DecidableEq, Repr

def Scalar.name : Scalar → String
  | .int64 => "i64"
  | .uint64 => "u64"
  | .float64 => "f64"
  | .int32 => "i32"
  | .uint32 => "u32"
  | .string => "String"
  | .date => "Date"
  | .timestamp => "PrimitiveDateTime"

/-- A column of a row, by position or by name. -/
inductive ColumnIndex where
  | position (n : Nat)
  | name (s : String)
  deriving DecidableEq, Repr

def ColumnIndex.text : ColumnIndex → String
  | .position n => Decimal.text n
  | .name s => s

inductive ConversionFault where
  | nullFor (scalar : Scalar)
  | mismatch (value : Value) (scalar : Scalar)
  | outOfRange (value : Value) (scalar : Scalar)
  | arity (found expected : Nat)
  | missingColumn (index : ColumnIndex)
  /-- A date was asked for its time of day. -/
  | missingComponent
  | recordIo (text : String)
  | recordWidth (found previous : Nat)
  | described (text : String)
  deriving DecidableEq, Repr

def ConversionFault.message : ConversionFault → String
  | .nullFor scalar => "unexpected NULL for a " ++ scalar.name ++ " value"
  | .mismatch value scalar =>
    "cannot interpret " ++ value.detailed ++ " as a " ++ scalar.name ++ " value"
  | .outOfRange value scalar => value.text ++ " is out of range for " ++ scalar.name
  | .arity found expected =>
    "row has " ++ Decimal.text found ++ " columns, expected " ++ Decimal.text expected
  | .missingColumn index => "Could not find column with index " ++ index.text
  | .missingComponent =>
    "cannot render temporal value: The type being formatted does not contain sufficient "
      ++ "information to format a component."
  | .recordIo text => "cannot serialize load row: " ++ text
  | .recordWidth found previous =>
    "cannot serialize load row: CSV error: found record with " ++ Decimal.text found
      ++ " fields, but the previous record has " ++ Decimal.text previous ++ " fields"
  | .described text => text

/-! ## All errors -/

inductive Error where
  | malformedDsn (fault : DsnFault)
  | transport (fault : TransportFault)
  /-- The service rejected the statement. -/
  | remote (code : UInt32) (text : String)
  /-- A field is no value of its column's declared type. -/
  | decode (column : Nat) (raw type : String)
  /-- A row of a bulk load has the wrong number of fields. -/
  | schemaMismatch (row expected found : Nat)
  | invalidArgument (fault : ArgumentFault)
  | emptyResult
  | conversion (fault : ConversionFault)
  deriving DecidableEq, Repr

namespace Error

def message : Error → String
  | malformedDsn fault => "Malformed DSN: " ++ fault.message
  | transport fault => "Transport error (" ++ fault.kind.text ++ "): " ++ fault.message
  | remote code text => "Server error " ++ Decimal.text code.toNat ++ ": " ++ text
  | decode column raw type =>
    "Cannot decode column " ++ Decimal.text column ++ " value " ++ Quoted.quote raw ++ " as " ++ type
  | schemaMismatch row expected found =>
    "Bulk load row " ++ Decimal.text row ++ " has " ++ Decimal.text found ++ " fields, expected "
      ++ Decimal.text expected
  | invalidArgument fault => "Invalid argument: " ++ fault.message
  | emptyResult => "Query returned no rows"
  | conversion fault => "Conversion error: " ++ fault.message

/-- The code that the service gave. -/
def code? : Error → Option UInt32
  | remote code _ => some code
  | _ => none

def isTransport : Error → Bool
  | transport _ => true
  | _ => false

/-- Whether the same operation may succeed when it is repeated. -/
def isRetryable : Error → Bool
  | transport fault =>
    match fault.kind with
    | .connectFailed | .timeout => true
    | .protocolViolation => false
  | _ => false

end Error

/-- The result of an operation of the client. -/
abbrev Result (α : Type) := Except Error α

theorem exists_of_bind {ε α β : Type} {x : Except ε α} {f : α → Except ε β} {b : β}
    (h : x >>= f = .ok b) : ∃ a, x = .ok a ∧ f a = .ok b := by
  cases x with
  | error e => cases h
  | ok a => exact ⟨a, rfl, h⟩

section Failed

variable {ε α β : Type} {x : Except ε α} {e : ε}

theorem error_of_bind {f : α → Except ε β} (h : x >>= f = .error e) :
    x = .error e ∨ ∃ a, x = .ok a ∧ f a = .error e := by
  cases x with
  | error e' =>
    obtain rfl := Except.error.inj h
    exact .inl rfl
  | ok a => exact .inr ⟨a, rfl, h⟩

theorem error_of_map {f : α → β} (h : x.map f = .error e) : x = .error e := by
  cases x with
  | error e' =>
    obtain rfl := Except.error.inj h
    rfl
  | ok a => cases h

end Failed

section MapError

variable {ε δ α : Type} (f : ε → δ)

@[simp] theorem mapError_ok (a : α) : Except.mapError f (.ok a) = .ok a := rfl

@[simp] theorem mapError_error (e : ε) :
    Except.mapError f (.error e : Except ε α) = .error (f e) := rfl

end MapError

end QueryClient
