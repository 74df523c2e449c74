import QueryClient.Envelope.Basic
import QueryClient.Error
import QueryClient.Json.Fields
import QueryClient.Json.Reader

/-!
# Reading answers

Which fields an answer has, in order, and which of them may be absent. A body that is not JSON and a
body of another shape are the same error.
-/

namespace QueryClient

open Json

def Rejection.ofJson? : Decoder Rejection := fun j =>
  match fields? ["code", "message"] j with
  | some [code, message] => do return ⟨← required? uint32? code, ← required? text? message⟩
  | _ => none

def SchemaField.ofJson? : Decoder SchemaField := fun j =>
  match fields? ["name", "type"] j with
  | some [name, type] => do return ⟨← required? text? name, ← required? text? type⟩
  | _ => none

def Progress.ofJson? : Decoder Progress := fun j =>
  match fields? ["rows", "bytes"] j with
  | some [rows, bytes] => do
    return ⟨← withDefault? 0 uint64? rows, ← withDefault? 0 uint64? bytes⟩
  | _ => none

def QueryStats.ofJson? : Decoder QueryStats := fun j =>
  match fields? ["running_time_ms", "scan_progress", "write_progress", "result_progress"] j with
  | some [time, scan, write, result] => do
    return {
      runningTime := ← withDefault? (Binary64.zero false) float? time
      scan := ← withDefault? {} Progress.ofJson? scan
      write := ← withDefault? {} Progress.ofJson? write
      result := ← withDefault? {} Progress.ofJson? result }
  | _ => none

def settingsOfJson? : Decoder (SortedMap String) := fun j =>
  (textMap? j).map SortedMap.ofList

def SessionState.ofJson? : Decoder SessionState := fun j =>
  match fields? ["database", "settings"] j with
  | some [database, settings] => do
    return ⟨← optional? text? database, ← optional? settingsOfJson? settings⟩
  | _ => none

def QueryPage.ofJson? : Decoder QueryPage := fun j =>
  match fields? ["id", "session", "schema", "data", "state", "error", "stats", "next_uri",
      "final_uri", "kill_uri"] j with
  | some [id, session, schema, data, state, error, stats, nextUri, finalUri, killUri] => do
    return {
      id := ← required? text? id
      session := ← optional? SessionState.ofJson? session
      schema := ← withDefault? [] (listOf? SchemaField.ofJson?) schema
      data := ← withDefault? [] (listOf? (listOf? (orNull? text?))) data
      state := ← withDefault? "" text? state
      error := ← optional? Rejection.ofJson? error
      stats := ← withDefault? {} QueryStats.ofJson? stats
      nextUri := ← optional? text? nextUri
      finalUri := ← optional? text? finalUri
      killUri := ← optional? text? killUri }
  | _ => none

def LoadReceipt.ofJson? : Decoder LoadReceipt := fun j =>
  match fields? ["id", "state", "stats", "error"] j with
  | some [id, state, stats, error] => do
    return {
      id := ← withDefault? "" text? id
      state := ← withDefault? "" text? state
      stats := ← withDefault? {} Progress.ofJson? stats
      error := ← optional? Rejection.ofJson? error }
  | _ => none

/-- The rejection in the body of an answer that is no success. -/
def Rejection.ofBody? : Decoder Rejection := fun j =>
  match fields? ["error"] j with
  | some [error] => required? Rejection.ofJson? error
  | _ => none

def Rejection.toError (r : Rejection) : Error :=
  .remote r.code r.message

/-- Reads a body as an answer of a kind. -/
def envelope {α : Type} (ofJson? : Decoder α) (body : List UInt8) : Result α :=
  match (Json.ofBytes? body).bind ofJson? with
  | some a => .ok a
  | none => .error (.transport .invalidEnvelope)

def QueryPage.ofBytes (body : List UInt8) : Result QueryPage :=
  envelope QueryPage.ofJson? body

def LoadReceipt.ofBytes (body : List UInt8) : Result LoadReceipt :=
  envelope LoadReceipt.ofJson? body

def Rejection.ofBytes (body : List UInt8) : Result Rejection :=
  envelope Rejection.ofBody? body

end QueryClient
