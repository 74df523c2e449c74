import QueryClient.Error
import QueryClient.Load.Dialect
import QueryClient.Text.Utf8

/-!
# Bulk loads

A `Batch` gathers the rows of a load before anything is sent. Rows are written as they come: into an
open buffer, which becomes a chunk of the upload once it has grown to 64 KiB. All rows must have the
width of the load, which is set beforehand or taken from the first row. A refused row, or a change of
dialect after the first accepted row, spoils the whole load: the fault is kept, and every later row
is refused with it.
-/

namespace QueryClient.Load

open QueryClient.Text

inductive BatchFault where
  /-- A row of the wrong width, or without a field. -/
  | width (row expected found : Nat)
  | lateDialect
  deriving DecidableEq, Repr

def BatchFault.toError : BatchFault → Error
  | .width row expected found => .schemaMismatch row expected found
  | .lateDialect => .invalidArgument .lateDialect

/-- What the request of a load carries. -/
structure Upload where
  sql : String
  headers : List (String × String)
  content : List UInt8
  /-- The length that is announced for the content. -/
  length : Nat
  fileName : String
  deriving DecidableEq, Repr

structure Batch where
  sql : String
  dialect : Dialect := {}
  /-- The width that every row must have, once it is known. -/
  columns : Option Nat := none
  /-- How many rows were accepted. -/
  rows : Nat := 0
  /-- How many bytes were written. -/
  size : Nat := 0
  /-- The chunks that are complete, in order. -/
  chunks : Array (Array UInt8) := #[]
  buffer : Array UInt8 := #[]
  /-- How many bytes of the buffer are counted in the size. -/
  buffered : Nat := 0
  fault : Option BatchFault := none
  deriving DecidableEq, Repr

namespace Batch

/-- The size from which on a buffer becomes a chunk. -/
def chunkSize : Nat := 65536

def withColumns (b : Batch) (n : Nat) : Batch :=
  { b with columns := some n }

/-- Changes the dialect. The upload has one dialect, so this spoils a load that has rows. -/
def withDialect (b : Batch) (d : Dialect) : Batch :=
  if b.rows = 0 then { b with dialect := d, buffer := #[] }
  else { b with fault := b.fault.or (some .lateDialect) }

/-- The buffer becomes a chunk, unless it is empty. -/
def closeChunk (b : Batch) : Batch :=
  { b with
    chunks := if b.buffer.isEmpty then b.chunks else b.chunks.push b.buffer
    buffer := #[]
    buffered := 0 }

/-- Writes bytes to the buffer, and counts what it has grown by. -/
def append (b : Batch) (bytes : List UInt8) : Batch :=
  let buffer := b.buffer ++ bytes
  let size := b.size + (buffer.size - b.buffered)
  let b := { b with buffer, size, buffered := buffer.size }
  if chunkSize ≤ b.buffered then b.closeChunk else b

def fieldBytes (row : List String) : List (List UInt8) :=
  row.map fun f => Utf8.encode f.toList

/-- Adds a row. -/
def send (b : Batch) (row : List String) : Batch × Except BatchFault Unit :=
  match b.fault with
  | some fault => (b, .error fault)
  | none =>
    let expected := b.columns.getD row.length
    let b := { b with columns := some expected }
    if row.length ≠ expected ∨ expected = 0 then
      let fault := .width b.rows expected row.length
      ({ b with fault := some fault }, .error fault)
    else
      let b := b.append (b.dialect.record (fieldBytes row))
      ({ b with rows := b.rows + 1 }, .ok ())

/-- Adds rows up to the first one that is refused. -/
def sendAll (b : Batch) : List (List String) → Batch × Except BatchFault Unit
  | [] => (b, .ok ())
  | row :: rows =>
    match b.send row with
    | (b, .ok ()) => b.sendAll rows
    | (b, .error fault) => (b, .error fault)

/-- The bytes of the complete chunks. -/
def sealedContent (b : Batch) : List UInt8 :=
  b.chunks.toList.flatMap Array.toList

/-- The bytes written so far. -/
def content (b : Batch) : List UInt8 :=
  b.sealedContent ++ b.buffer.toList

/-- What is uploaded in the end; a load without rows is over without an upload. -/
def finish (b : Batch) : Except BatchFault (Option Upload) :=
  match b.fault with
  | some fault => .error fault
  | none =>
    if b.rows = 0 then .ok none
    else .ok (some ⟨b.sql, b.dialect.headers, b.closeChunk.sealedContent, b.size, "upload.csv"⟩)

/-! ## Diagnostics -/

def faultDetailed : BatchFault → String
  | .width row expected found =>
    "SchemaMismatch \x7b row_index: " ++ Decimal.text row ++ ", expected: " ++ Decimal.text expected
      ++ ", found: " ++ Decimal.text found ++ " \x7d"
  | .lateDialect =>
    "InvalidArgument(" ++ Quoted.quote ArgumentFault.lateDialect.message ++ ")"

/-- A value that may be missing. -/
def optionDetailed {α : Type} (text : α → String) : Option α → String
  | none => "None"
  | some a => "Some(" ++ text a ++ ")"

def detailed (b : Batch) : String :=
  "BulkLoad \x7b sql: " ++ Quoted.quote b.sql ++ ", format: " ++ b.dialect.detailed
    ++ ", columns: " ++ optionDetailed Decimal.text b.columns
    ++ ", rows: " ++ Decimal.text b.rows ++ ", size: " ++ Decimal.text b.size
    ++ ", failed: " ++ optionDetailed faultDetailed b.fault ++ " \x7d"

end Batch

end QueryClient.Load
