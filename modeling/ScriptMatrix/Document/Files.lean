import ScriptMatrix.Fault
import ScriptMatrix.Path
import ScriptMatrix.Text.Utf8

/-!
# `ScriptMatrix.Document.Files`: the files that documents are read from

Reading a matrix does not change files, so the files are a value: a list
of contents, and which of them a path names. Different paths may name one
file; a file is known by its number, not by the path that led to it.
-/

set_option autoImplicit false

namespace ScriptMatrix

/-- What there is to read in a file. -/
inductive Content where
  | bytes (b : Bytes)
  /-- A directory can be opened, but not read. -/
  | directory
  /-- A file that cannot be opened, and why. -/
  | closed (fault : Fault)
  deriving Repr

/-- The files there are, as seen from the current directory. -/
structure Files where
  contents : List Content
  /-- The number of the file that a path names, if it names one. -/
  resolve : Path → Option Nat

namespace Files

/-- The content of a file by its number. -/
def content (fs : Files) (file : Nat) : Content :=
  fs.contents.getD file (.closed .notFound)

end Files

end ScriptMatrix
