import QueryClient.Text.Utf8

/-!
# Paths

A path is what the file system takes it for: bytes, which need not be text. Slashes stand between its
parts. A part that stands for the directory it is in does not count, so that the last of the others
is the name of the file.
-/

namespace QueryClient.Load

open QueryClient.Text

structure Path where
  bytes : List UInt8
  deriving DecidableEq, Repr

namespace Path

def slash : UInt8 := 47

def point : UInt8 := 46

/-- The path that is written as a text. -/
def ofString (s : String) : Path :=
  ⟨Utf8.encode s.toList⟩

instance : Coe String Path := ⟨ofString⟩

/-- A path as it is shown. -/
def text (p : Path) : String :=
  String.ofList (Utf8.decodeLossy p.bytes)

/-- Whether a part of a path stands for the directory it is in. -/
def isIdle (part : List UInt8) : Bool :=
  part = [] || part = [point]

/-- The name of the file at a path, unless the path ends in the directory above. -/
def fileName? (p : Path) : Option (List UInt8) :=
  ((p.bytes.splitOn slash).reverse.find? fun part => !isIdle part).filter (· ≠ [point, point])

/-- The text after the last point of the file name, unless the name begins with that point. -/
def extension? (p : Path) : Option String := do
  let name ← p.fileName?
  let ending := (name.reverse.takeWhile (· ≠ point)).reverse
  if name.length ≤ ending.length + 1 ∨ ending = [] then none
  else (Utf8.decode? ending).map String.ofList

end Path

end QueryClient.Load
