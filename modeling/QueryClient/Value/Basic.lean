import QueryClient.Binary64.Text
import QueryClient.Calendar.Text
import QueryClient.Text.Quoted

/-!
# Values

A `Value` is one decoded field. All signed widths share one constructor, as do all unsigned widths
and both float widths. `text` renders a value as query results show it, `loadField` as the fields of
a bulk load are written, and `detailed` names the constructor for diagnostics.
-/

namespace QueryClient

open QueryClient.Text QueryClient.Calendar

inductive Value where
  | null
  | int64 (n : Int64)
  | uint64 (n : UInt64)
  | float64 (x : Binary64)
  | string (s : String)
  | date (d : Date)
  | timestamp (t : Timestamp)
  deriving DecidableEq, Repr

namespace Value

def isNull : Value → Bool
  | null => true
  | _ => false

def text : Value → String
  | null => "NULL"
  | int64 n => Decimal.signedText n.toInt
  | uint64 n => Decimal.text n.toNat
  | float64 x => x.plain
  | string s => s
  | date d => d.text
  | timestamp t => t.text

/-- The null marker of a load is a backslash and an `N`. -/
def loadField : Value → String
  | null => "\\N"
  | timestamp t => t.inputText
  | v => v.text

def detailed : Value → String
  | null => "Null"
  | int64 n => "Int64(" ++ Decimal.signedText n.toInt ++ ")"
  | uint64 n => "UInt64(" ++ Decimal.text n.toNat ++ ")"
  | float64 x => "Float64(" ++ x.detailed ++ ")"
  | string s => "String(" ++ Quoted.quote s ++ ")"
  | date d => "Date(" ++ d.text ++ ")"
  | timestamp t => "DateTime(" ++ t.detailed ++ ")"

end Value

end QueryClient
