import QueryClient.Config.Basic
import QueryClient.Http.Header
import QueryClient.Http.Status

/-!
# Requests and responses

A request has one of three bodies: none, a JSON text, or a form with a single file. The file is held
as it is; the boundaries that a form is sent with are not part of a request.
-/

namespace QueryClient.Http

inductive Method where
  | get
  | post
  | put
  deriving DecidableEq, Repr

def Method.text : Method → String
  | .get => "GET"
  | .post => "POST"
  | .put => "PUT"

/-- A file in a form. -/
structure FormFile where
  field : String
  fileName : String
  content : List UInt8
  /-- The length that is announced for the content. -/
  length : Nat
  deriving DecidableEq, Repr

/-- A character of a file name between quotes. -/
def escapeFileName (c : Char) : List Char :=
  if c = '\\' ∨ c = '"' ∨ c = '\r' ∨ c = '\n' then ['\\', c] else [c]

/-- The header of the part of a form that holds a file. -/
def FormFile.disposition (f : FormFile) : String :=
  "Content-Disposition: form-data; name=\"" ++ f.field ++ "\"; filename=\""
    ++ String.ofList (f.fileName.toList.flatMap escapeFileName) ++ "\""

inductive Body where
  | empty
  | json (text : String)
  | form (file : FormFile)
  deriving DecidableEq, Repr

/-- The media type of a body; a form also names its boundary. -/
def Body.mediaType? : Body → Option String
  | .empty => none
  | .json _ => some "application/json"
  | .form _ => some "multipart/form-data"

structure Request where
  method : Method
  url : Url
  headers : Headers
  body : Body
  /-- How long the answer may take. -/
  timeout : Duration

/-- The answer that the HTTP library comes back with, behind all redirects that it follows. Its body is
missing when it ended too early; a body that stalls until the time is up is not represented. -/
structure Response where
  status : Nat
  body : Option (List UInt8)
  deriving DecidableEq, Repr

/-- The body that counts: some answers have none, whatever follows their head. -/
def Response.read (r : Response) : Except ExchangeFailure (List UInt8) :=
  if isBodiless r.status then .ok []
  else
    match r.body with
    | some b => .ok b
    | none => .error .cutShort

end QueryClient.Http
