import QueryClient.Config.Dsn
import QueryClient.Load.Files
import QueryClient.Session
import QueryClient.Stream.Read

/-!
# Connections

The operations of a client, one at a time. `exec` reads a result to its last page and keeps its
counters, `query` answers a stream that reads it as far as its reader likes, and `queryRow` answers
its first row and cancels the rest. Loads are gathered first and sent in one request, which the
service has to acknowledge row by row.
-/

namespace QueryClient

open Http

/-- The outcome of a load, as the service counts it. -/
structure LoadProgress where
  writeRows : UInt64 := 0
  writeBytes : UInt64 := 0
  deriving DecidableEq, Repr

/-- What a connection is connected to. -/
structure ConnectionInfo where
  handler : String
  host : String
  port : UInt16
  user : String
  database : Option String
  warehouse : Option String
  deriving DecidableEq, Repr

structure Client where
  config : Config
  name : Option String := none

/-- A client of a connection string. -/
def Client.ofDsn (dsn : String) : Result Client :=
  (Config.ofDsn dsn).map fun config => { config }

/-- Opens a connection. No request is made before the first statement. -/
def Client.connect (c : Client) (network : Network) : Result Session :=
  Session.start c.config (c.name.getD Session.defaultUserAgent) network

namespace Session

/-! ## Statements -/

/-- Reads the pages after one, up to the last. -/
def lastPage (s : Session) (page : QueryPage) : Session × Result QueryPage :=
  match page.nextUri with
  | none => (s, .ok page)
  | some uri =>
    match h : s.queryPage uri with
    | (s', .error e) => (s', .error e)
    | (s', .ok page) =>
      have : s'.remaining < s.remaining := by
        simpa [h] using remaining_queryPage_lt s uri (show (s.queryPage uri).2 = .ok page by rw [h])
      s'.lastPage page
termination_by s.remaining

/-- Runs a statement to its end. -/
def exec (s : Session) (sql : String) : Session × Result ExecuteResult :=
  match s.startQuery sql with
  | (s, .error e) => (s, .error e)
  | (s, .ok first) =>
    let (s, page) := s.lastPage first
    (s, page.map fun p => .ofStats p.stats)

/-- Runs a query and answers the stream of its rows. -/
def query (s : Session) (sql : String) : Session × Result RowStream :=
  let (s, page) := s.startQuery sql
  (s, page.bind RowStream.start)

/-- The first row of a query. The rest of it is cancelled, and whether that succeeds does not
matter. -/
def queryRow (s : Session) (sql : String) : Session × Result Row :=
  match s.query sql with
  | (s, .error e) => (s, .error e)
  | (s, .ok stream) =>
    match (RowStream.rows source).next stream s with
    | (stream, s, .failure e) => (stream.drop source s, .error e)
    | (stream, s, .item row) => (stream.abandon source s, .ok row)
    | (stream, s, .pending) => (stream.abandon source s, .error .emptyResult)
    | (stream, s, .over) => (stream.abandon source s, .error .emptyResult)

/-- The version of the service. -/
def version (s : Session) : Session × Result String :=
  let (s, row) := s.queryRow "SELECT version()"
  (s, do (← row).get (.scalar .string) (.position 0))

/-! ## Loads -/

/-- What the service made of a load of so many rows. -/
def acknowledged (sent : Nat) (receipt : LoadReceipt) : Result LoadProgress :=
  if receipt.stats.rows.toNat = sent then .ok ⟨receipt.stats.rows, receipt.stats.bytes⟩
  else .error (.transport (.rowCount receipt.stats.rows.toNat sent))

/-- Sends what was gathered. A load without rows is over without a request. -/
def finalize (s : Session) (b : Load.Batch) : Session × Result LoadProgress :=
  match b.finish with
  | .error fault => (s, .error fault.toError)
  | .ok none => (s, .ok {})
  | .ok (some upload) =>
    let (s, receipt) := s.load upload
    (s, receipt.bind (acknowledged b.rows))

/-- Loads rows in one go. -/
def streamLoad (s : Session) (sql : String) (rows : List (List String)) :
    Session × Result LoadProgress :=
  match ({ sql } : Load.Batch).sendAll rows with
  | (_, .error fault) => (s, .error fault.toError)
  | (b, .ok ()) => s.finalize b

/-- The upload of a file, of which the content is given unless it could not be read. -/
def fileUpload (found : Except Load.FileFault (List UInt8)) (sql : String) (path : Load.Path)
    (options : SortedMap String) : Result Load.Upload := do
  let headers ← Load.fileHeaders path options
  match found with
  | .error fault => throw (.invalidArgument (.unreadable path.text fault.message))
  | .ok content => return ⟨sql, headers.entries, content, content.length, Load.uploadName path⟩

/-- Loads what was found at a path. -/
def loadFound (s : Session) (found : Except Load.FileFault (List UInt8)) (sql : String)
    (path : Load.Path) (options : SortedMap String) : Session × Result LoadProgress :=
  match fileUpload found sql path options with
  | .error e => (s, .error e)
  | .ok upload =>
    let (s, receipt) := s.load upload
    (s, receipt.map fun r => ⟨r.stats.rows, r.stats.bytes⟩)

/-- Loads a file. -/
def loadFile (s : Session) (d : Load.Directory) (sql path : String) (options : SortedMap String) :
    Session × Result LoadProgress :=
  s.loadFound (d.read path) sql path options

/-! ## Information -/

def info (s : Session) (c : Config) : ConnectionInfo where
  handler := "RestAPI"
  host := c.host
  port := c.effectivePort
  user := c.credentials.user
  database := s.state.database
  warehouse := s.warehouse

end Session

end QueryClient
