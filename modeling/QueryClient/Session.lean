import QueryClient.Envelope.OfJson
import QueryClient.Http.Network
import QueryClient.Http.RequestId
import QueryClient.Load.Batch
import QueryClient.Stream.Source
import QueryClient.Text.Base64

/-!
# Sessions

A session is what a connection knows about the service, together with the network that leads to it.
Statements carry the session state that the service sent last, which replaces the one before as a
whole; a setting of it that names a warehouse also directs later requests there. Cancellations that
nobody waits for are queued and run on their own.
-/

namespace QueryClient

open Http Text

structure Session where
  network : Network
  endpoint : Url
  credentials : Credentials
  tenant : Option String
  pagination : Pagination
  userAgent : String
  pageTimeout : Duration
  loadTimeout : Duration
  state : SessionState
  warehouse : Option String
  /-- The number that the next identifier is made of. -/
  nextId : Nat := 0
  /-- The links of the cancellations that wait to be run, in order. -/
  background : List String := []

namespace Session

/-- The user agent of a client without a name. -/
def defaultUserAgent : String := "sluice/0.1.0"

/-- Where statements are sent to. -/
def queryPath : String := "/v1/query"

/-- Where files are loaded from. -/
def loadPath : String := "/v1/streaming_load"

/-- A session of a configuration. No request is made. -/
def start (c : Config) (userAgent : String) (network : Network) : Result Session :=
  if !isValue userAgent then .error (.transport (.exchange .invalidUserAgent))
  else do
    let endpoint ← c.endpoint
    return {
      network, endpoint, userAgent
      credentials := c.credentials
      tenant := c.tenant
      pagination := c.pagination
      pageTimeout := c.effectivePageTimeout
      loadTimeout := c.effectiveLoadTimeout
      state := .starting c.database c.settings
      warehouse := c.warehouse }

/-! ## Requests -/

/-- The field that tells the service who asks. -/
def authorization (c : Credentials) : String :=
  let pair := c.user ++ ":" ++ c.password.getD ""
  "Basic " ++ String.ofList (Base64.encode (Utf8.encode pair.toList))

/-- A field that is left out when it has no value. -/
def optionalHeader (name : String) : Option String → List (String × String)
  | some value => [(name, value)]
  | none => []

/-- The fields of every request. -/
def headers (s : Session) : Result Headers :=
  insertHeaders {}
    ([("user-agent", s.userAgent), ("authorization", authorization s.credentials),
      ("x-databend-query-id", requestId s.nextId)]
      ++ optionalHeader "x-databend-tenant" s.tenant
      ++ optionalHeader "x-databend-warehouse" s.warehouse)

/-- A request of the session; further fields replace those of every request. -/
def request (s : Session) (method : Method) (uri : String) (further : Headers) (body : Body)
    (timeout : Duration) : Result Request :=
  match s.endpoint.join uri with
  | .error fault => .error (.transport (.invalidUri uri fault))
  | .ok url => do
    let headers := further.entries.foldl (fun h e => h.insert e.1 e.2) (← s.headers)
    let headers := match body.mediaType? with
      | some type => headers.insert "content-type" type
      | none => headers
    return { method, url, headers, body, timeout }

/-- Sends a request and waits for the head of the answer. -/
def send (s : Session) (r : Result Request) : Session × Result Response :=
  match r with
  | .error e => (s, .error e)
  | .ok r =>
    let (network, answer) := s.network.send r
    ({ s with network, nextId := s.nextId + 1 },
      answer.mapError fun failure => .transport (.exchange failure))

/-! ## Answers -/

/-- The body of an answer. -/
def readBody (r : Response) : Result (List UInt8) :=
  r.read.mapError fun failure => .transport (.exchange failure)

/-- What is told about an answer without a rejection in its body. -/
def failureText (status : Nat) (body : List UInt8) : String :=
  match String.ofList (trim (Utf8.decodeLossy body)) with
  | "" => (reason? status).getD "request failed"
  | text => text

/-- The error of an answer that is no success. -/
def remoteError (r : Response) : Error :=
  match readBody r with
  | .error e => e
  | .ok body =>
    match Rejection.ofBytes body with
    | .ok rejection => rejection.toError
    | .error _ => .remote (UInt32.ofNat r.status) (failureText r.status body)

/-- The envelope in an answer. -/
def readEnvelope {α : Type} (ofBytes : List UInt8 → Result α) (r : Response) : Result α :=
  if isSuccess r.status then (readBody r).bind ofBytes else .error (remoteError r)

/-- Takes over the state that the service sent. -/
def adopt (s : Session) : Option SessionState → Session
  | none => s
  | some state =>
    { s with state, warehouse := (state.settings.bind (·.get? "warehouse")).or s.warehouse }

/-! ## Queries -/

/-- The page in an answer. A page with a rejection counts for the session state alone. -/
def receivePage (s : Session) (answer : Result Response) : Session × Result QueryPage :=
  match answer.bind (readEnvelope QueryPage.ofBytes) with
  | .error e => (s, .error e)
  | .ok page =>
    (s.adopt page.session, match page.error with
      | some rejection => .error rejection.toError
      | none => .ok page)

def statement (s : Session) (sql : String) : Statement :=
  { session := some s.state, sql, pagination := s.pagination }

/-- Sends a statement and answers the first page of its result. -/
def startQuery (s : Session) (sql : String) : Session × Result QueryPage :=
  let r := s.request .post queryPath {} (.json (s.statement sql).body) s.pageTimeout
  let (s, answer) := s.send r
  s.receivePage answer

/-- The page behind a link. -/
def queryPage (s : Session) (uri : String) : Session × Result QueryPage :=
  let (s, answer) := s.send (s.request .get uri {} .empty s.pageTimeout)
  s.receivePage answer

/-- Cancels a query. The body of a success does not count. -/
def kill (s : Session) (uri : String) : Session × Result Unit :=
  let (s, answer) := s.send (s.request .post uri {} .empty s.pageTimeout)
  (s, do
    let r ← answer
    if isSuccess r.status then return () else throw (remoteError r))

/-- Queues a cancellation that nobody waits for. -/
def killDetached (s : Session) (uri : String) : Session :=
  { s with background := s.background ++ [uri] }

/-- Runs the cancellations that are queued; what becomes of them is told to nobody. -/
def runBackground (s : Session) : Session :=
  s.background.foldl (fun s uri => (s.kill uri).1) { s with background := [] }

/-! ## Loads -/

/-- A statement in a header field, where line ends cannot stand. -/
def headerSql (sql : String) : String :=
  String.ofList (sql.toList.map fun c => if c = '\r' ∨ c = '\n' then ' ' else c)

/-- Uploads a file and answers what the service made of it. -/
def load (s : Session) (u : Load.Upload) : Session × Result LoadReceipt :=
  match insertHeaders {} (("insert_sql", headerSql u.sql) :: u.headers) with
  | .error e => (s, .error e)
  | .ok headers =>
    let file := Body.form ⟨"upload", u.fileName, u.content, u.length⟩
    let (s, answer) := s.send (s.request .put loadPath headers file s.loadTimeout)
    (s, do
      let receipt ← readEnvelope LoadReceipt.ofBytes (← answer)
      match receipt.error with
      | some rejection => throw rejection.toError
      | none => return receipt)

/-! ## The session as a source of pages -/

/-- How many answers the network still has. -/
def remaining (s : Session) : Nat :=
  s.network.script.length

theorem remaining_adopt (s : Session) (state : Option SessionState) :
    (s.adopt state).remaining = s.remaining := by
  cases state <;> rfl

theorem remaining_send_lt (s : Session) (r : Result Request) (a : Response)
    (h : (s.send r).2 = .ok a) : (s.send r).1.remaining < s.remaining := by
  cases r with
  | error e => simp [send] at h
  | ok r =>
    refine s.network.length_script_send_lt r a ?_
    cases ha : (s.network.send r).2 with
    | error e =>
      simp only [send, ha] at h
      cases h
    | ok a' =>
      simp only [send, ha] at h
      cases h
      rfl

theorem remaining_receivePage_lt {s s' : Session} {answer : Result Response}
    (hs : ∀ a, answer = .ok a → s.remaining < s'.remaining) {page : QueryPage}
    (h : (s.receivePage answer).2 = .ok page) :
    (s.receivePage answer).1.remaining < s'.remaining := by
  unfold receivePage at h ⊢
  split at h
  · simp at h
  · next p hp =>
    cases answer with
    | error e => simp [Except.bind] at hp
    | ok a => simpa [hp, remaining_adopt] using hs a rfl

/-- Every page uses up an answer. -/
theorem remaining_queryPage_lt (s : Session) (uri : String) {page : QueryPage}
    (h : (s.queryPage uri).2 = .ok page) : (s.queryPage uri).1.remaining < s.remaining :=
  remaining_receivePage_lt (fun a => remaining_send_lt s _ a) h

def source : PageSource Session where
  fetch s _ := s
  poll s uri :=
    let (s, page) := s.queryPage uri
    (s, .ready page)
  kill := kill
  killDetached := killDetached
  remaining := remaining
  remaining_fetch_le _ _ := Nat.le_refl _
  remaining_poll_lt s uri h := by
    cases hp : (s.queryPage uri).2 with
    | ok page => exact remaining_queryPage_lt s uri hp
    | error e => simp [hp, PageAnswer.isFailure] at h

end Session

end QueryClient
