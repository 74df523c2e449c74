import QueryClient.Load.FileOptions

/-!
# Files of a directory

The files that a client can load: those of one directory, which has no directories in it. A path leads
to one of them by its name; what else a path may lead to, and why it cannot be read, is a
`FileFault`.
-/

namespace QueryClient.Load

open QueryClient.Text

inductive FileFault where
  | notFound
  | notDirectory
  | isDirectory
  | nameTooLong
  | embeddedNul
  deriving DecidableEq, Repr

def FileFault.message : FileFault → String
  | .notFound => "No such file or directory (os error 2)"
  | .notDirectory => "Not a directory (os error 20)"
  | .isDirectory => "Is a directory (os error 21)"
  | .nameTooLong => "File name too long (os error 36)"
  | .embeddedNul => "file name contained an unexpected NUL byte"

structure Directory where
  files : List (String × List UInt8)

namespace Directory

/-- How many bytes a text has. -/
def byteLength (s : List Char) : Nat :=
  (Utf8.encode s).length

/-- Follows the parts of a path from the directory on. -/
def follow (d : Directory) : List (List Char) → Except FileFault (List UInt8)
  | [] => .error .isDirectory
  | part :: rest =>
    if part = [] ∨ part = ['.'] then d.follow rest
    else if 255 < byteLength part then .error .nameTooLong
    else
      match d.files.lookup (String.ofList part), rest with
      | some content, [] => .ok content
      | some _, _ :: _ => .error .notDirectory
      | none, _ => .error .notFound

/-- The content of the file at a path. -/
def read (d : Directory) (path : String) : Except FileFault (List UInt8) :=
  let s := path.toList
  if s.contains '\x00' then .error .embeddedNul
  else if 4095 < byteLength s then .error .nameTooLong
  else if s.head?.all (· = '/') then .error .notFound
  else d.follow (s.splitOnP (· = '/'))

end Directory

/-- The name that a file is sent under. -/
def uploadName (path : Path) : String :=
  (path.fileName?.map fun name => String.ofList (Utf8.decodeLossy name)).getD "upload"

end QueryClient.Load
