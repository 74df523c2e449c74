import QueryClient.Text.Decimal

/-!
# Dialects of separated values

A dialect names the bytes that separate fields, end records and enclose fields. A field is enclosed
only when it holds one of them, with its quotes doubled, and a record without a single byte is written
as an enclosed empty field, so that no record is mistaken for an empty line.
-/

namespace QueryClient.Load

/-- How a record ends. -/
inductive RecordEnd where
  | newline
  | crlf
  | byte (b : UInt8)
  deriving DecidableEq, Repr

structure Dialect where
  fieldDelimiter : UInt8 := 44
  recordEnd : RecordEnd := .newline
  quote : UInt8 := 34
  deriving DecidableEq, Repr, Inhabited

/-! ## Writing -/

def RecordEnd.bytes : RecordEnd → List UInt8
  | .newline => [10]
  | .crlf => [13, 10]
  | .byte b => [b]

/-- Whether a byte inside a field could be taken for the end of a record. Where a line feed or a
carriage return ends records, both of them could. -/
def RecordEnd.isMarked (e : RecordEnd) (b : UInt8) : Bool :=
  match e with
  | .newline | .crlf => b = 10 || b = 13
  | .byte c => if c = 10 ∨ c = 13 then b = 10 || b = 13 else b = c

namespace Dialect

/-- Whether a field with this byte is enclosed. -/
def isSpecial (d : Dialect) (b : UInt8) : Bool :=
  b = d.fieldDelimiter || b = d.quote || d.recordEnd.isMarked b

/-- A field in quotes. -/
def enclosed (d : Dialect) (field : List UInt8) : List UInt8 :=
  d.quote :: field.flatMap (fun b => if b = d.quote then [b, b] else [b]) ++ [d.quote]

def field (d : Dialect) (bytes : List UInt8) : List UInt8 :=
  if bytes.any d.isSpecial then d.enclosed bytes else bytes

/-- The fields of a record with delimiters between them. -/
def joined (d : Dialect) (fields : List (List UInt8)) : List UInt8 :=
  [d.fieldDelimiter].intercalate (fields.map d.field)

/-- A record and its end. -/
def record (d : Dialect) (fields : List (List UInt8)) : List UInt8 :=
  let body := d.joined fields
  (if body.isEmpty then [d.quote, d.quote] else body) ++ d.recordEnd.bytes

def records (d : Dialect) (rows : List (List (List UInt8))) : List UInt8 :=
  rows.flatMap d.record

/-! ## Request headers -/

/-- A byte in a header value; controls that cannot travel there are written with a backslash. -/
def headerByte (b : UInt8) : String :=
  if b = 10 then "\\n"
  else if b = 13 then "\\r"
  else if b = 9 then "\\t"
  else String.singleton (Char.ofNat b.toNat)

end Dialect

def RecordEnd.header : RecordEnd → String
  | .newline => Dialect.headerByte 10
  | .crlf => "\\r\\n"
  | .byte b => Dialect.headerByte b

/-- The headers that tell the service the dialect of an upload. -/
def Dialect.headers (d : Dialect) : List (String × String) :=
  [("format_type", "CSV"),
   ("field_delimiter", headerByte d.fieldDelimiter),
   ("record_delimiter", d.recordEnd.header),
   ("quote", headerByte d.quote),
   ("skip_header", "0")]

/-! ## Diagnostics -/

open QueryClient.Text in
def RecordEnd.detailed : RecordEnd → String
  | .newline => "Newline"
  | .crlf => "CrLf"
  | .byte b => "Byte(" ++ Decimal.text b.toNat ++ ")"

open QueryClient.Text in
def Dialect.detailed (d : Dialect) : String :=
  "LoadFormat \x7b field_delimiter: " ++ Decimal.text d.fieldDelimiter.toNat
    ++ ", record_delimiter: " ++ d.recordEnd.detailed
    ++ ", quote: " ++ Decimal.text d.quote.toNat ++ " \x7d"

end QueryClient.Load
