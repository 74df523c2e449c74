import QueryClient.Binary64.Basic
import QueryClient.SortedMap

/-!
# Answers of the service

A query is answered page by page; each page says where the next one is, and the last one does not. A
load is answered once. Either answer may carry a rejection, and a page may carry the session state
that later statements continue from.
-/

namespace QueryClient

/-- What the service holds against a statement. -/
structure Rejection where
  code : UInt32
  message : String
  deriving DecidableEq, Repr

/-- A column as the service declares it. -/
structure SchemaField where
  name : String
  type : String
  deriving DecidableEq, Repr

/-- What a stage of a query has processed. -/
structure Progress where
  rows : UInt64 := 0
  bytes : UInt64 := 0
  deriving DecidableEq, Repr, Inhabited

/-- The counters of a page; the running time is in milliseconds. -/
structure QueryStats where
  runningTime : Binary64 := Binary64.zero false
  scan : Progress := {}
  write : Progress := {}
  result : Progress := {}
  deriving DecidableEq, Repr, Inhabited

/-- What the service wants to be told with the next statement. -/
structure SessionState where
  database : Option String := none
  settings : Option (SortedMap String) := none
  deriving DecidableEq, Repr, Inhabited

/-- The state that a session starts from; a session without settings leaves them unset. -/
def SessionState.starting (database : Option String) (settings : SortedMap String) :
    SessionState :=
  ⟨database, if settings.isEmpty then none else some settings⟩

/-- A row as it arrives: a text or nothing for every field. -/
abbrev RawRow := List (Option String)

structure QueryPage where
  id : String
  session : Option SessionState := none
  schema : List SchemaField := []
  data : List RawRow := []
  state : String := ""
  error : Option Rejection := none
  stats : QueryStats := {}
  nextUri : Option String := none
  finalUri : Option String := none
  killUri : Option String := none
  deriving DecidableEq, Repr, Inhabited

structure LoadReceipt where
  id : String := ""
  state : String := ""
  stats : Progress := {}
  error : Option Rejection := none
  deriving DecidableEq, Repr, Inhabited

/-- The counters of a statement that was run to its end. -/
structure ExecuteResult where
  rowsAffected : UInt64
  bytesWritten : UInt64
  rowsReturned : UInt64
  runningTime : Binary64
  deriving DecidableEq, Repr

def ExecuteResult.ofStats (s : QueryStats) : ExecuteResult :=
  ⟨s.write.rows, s.write.bytes, s.result.rows, s.runningTime⟩

end QueryClient
