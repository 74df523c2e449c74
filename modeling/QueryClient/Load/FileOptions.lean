import QueryClient.Error
import QueryClient.Load.Dialect
import QueryClient.Load.Path
import QueryClient.SortedMap

/-!
# Options of a file load

The options of a file load become the headers of its request. Unless they name a format, it is the
extension of the file, and a file of separated values has every option of the default dialect that
the caller does not give.
-/

namespace QueryClient.Load

/-- Upper case of the ASCII letters. -/
def raised (s : String) : String :=
  String.ofList (s.toList.map Char.toUpper)

def isSeparatedValues (format : String) : Bool :=
  raised format = "CSV"

/-- Adds the entries whose keys are missing. -/
def addMissing (m : SortedMap String) (entries : List (String × String)) : SortedMap String :=
  entries.foldl (fun m e => if m.contains e.1 then m else m.insert e.1 e.2) m

/-- The options with a format. -/
def withFormat (path : Path) (options : SortedMap String) : Result (SortedMap String) :=
  if options.contains "format_type" then .ok options
  else
    match path.extension? with
    | some ext => .ok (options.insert "format_type" (raised ext))
    | none => .error (.invalidArgument (.unknownFormat path.text))

/-- The headers of a file load. -/
def fileHeaders (path : Path) (options : SortedMap String) : Result (SortedMap String) := do
  let headers ← withFormat path options
  if (headers.get? "format_type").any isSeparatedValues then
    return addMissing headers ({} : Dialect).headers
  else return headers

end QueryClient.Load
