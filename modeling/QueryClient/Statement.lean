import QueryClient.Envelope.Basic
import QueryClient.Json.Basic

/-!
# Statements

The body of the request that starts a statement: the session that it continues, its text, and how its
result is to be paged. What is not set is left out.
-/

namespace QueryClient

/-- How the service cuts a result into pages. -/
structure Pagination where
  waitSeconds : Option UInt64 := none
  bufferRows : Option UInt64 := none
  pageRows : Option UInt64 := none
  deriving DecidableEq, Repr, Inhabited

def Pagination.isEmpty (p : Pagination) : Bool :=
  p.waitSeconds.isNone && p.bufferRows.isNone && p.pageRows.isNone

structure Statement where
  session : Option SessionState := none
  sql : String
  pagination : Pagination := {}
  deriving DecidableEq, Repr

/-! ## JSON -/

/-- A member that is left out when there is no value. -/
def Json.member {α : Type} (name : String) (toJson : α → Json) (value : Option α) :
    List (Option String × Json) :=
  match value with
  | some v => [(some name, toJson v)]
  | none => []

def SortedMap.toJson (m : SortedMap String) : Json :=
  .object (m.entries.map fun e => (some e.1, Json.ofString e.2))

def SessionState.toJson (s : SessionState) : Json :=
  .object (Json.member "database" Json.ofString s.database
    ++ Json.member "settings" SortedMap.toJson s.settings)

def Pagination.toJson (p : Pagination) : Json :=
  let count (n : UInt64) : Json := Json.ofNat n.toNat
  .object (Json.member "wait_time_secs" count p.waitSeconds
    ++ Json.member "max_rows_in_buffer" count p.bufferRows
    ++ Json.member "max_rows_per_page" count p.pageRows)

def Statement.toJson (s : Statement) : Json :=
  .object (Json.member "session" SessionState.toJson s.session
    ++ [(some "sql", Json.ofString s.sql)]
    ++ Json.member "pagination" Pagination.toJson
      (if s.pagination.isEmpty then none else some s.pagination))

/-- The text of the request body. -/
def Statement.body (s : Statement) : String :=
  s.toJson.text

end QueryClient
