import ScriptMatrix.Document.Files
import ScriptMatrix.Error

/-!
# `ScriptMatrix.Document.Source`: a document and its includes as lines

A source is a stack of open documents, the root at the bottom. Lines come
from the top; an include puts a document on top, so its lines come before
the rest of the one that includes it. A document that has been read to
its end stays open until the next line is asked for. One that is open
cannot be included again.

A line is everything up to a newline, which is not part of it. Numbers
count the lines of each document on its own, from one.
-/

set_option autoImplicit false

namespace ScriptMatrix

/-- The byte that ends a line. -/
def newlineByte : UInt8 := 0x0a

/-- A line of a document, and where it stands. -/
structure SourceLine where
  bytes : Bytes
  place : Place
  deriving Repr, DecidableEq

/-- A document that is open. -/
structure Frame where
  path : Path
  /-- The number of the file among all files. -/
  file : Nat
  /-- What is left to read, or why nothing can be read. -/
  unread : Except Fault Bytes
  /-- How many lines have been read. -/
  line : Nat
  deriving Repr

/-- A stack of open documents, the one that is read first in front. -/
structure Source where
  /-- Where includes are looked for if not found as given. -/
  rootDir : Path
  frames : List Frame
  deriving Repr

/-- Splits bytes behind the first line: the line, and what follows its
newline. -/
def splitLine (b : Bytes) : Bytes × Bytes :=
  (b.takeWhile (· != newlineByte), (b.dropWhile (· != newlineByte)).drop 1)

namespace Source

/-- The number of open documents. -/
def depth (s : Source) : Nat := s.frames.length

/-- The directory of a document. -/
def directoryOf (root : Path) : Path :=
  match root.parent? with
  | some dir => if dir.text.isEmpty then ⟨"."⟩ else dir
  | none => ⟨"."⟩

/-- Opens the file with a number under a path, on top of the others. -/
def push (fs : Files) (s : Source) (path : Path) (file : Nat) : Except Error Source :=
  if s.frames.any (·.file == file) then .error (.includeCycle path)
  else match fs.content file with
    | .bytes b => .ok { s with frames := ⟨path, file, .ok b, 0⟩ :: s.frames }
    | .directory => .ok { s with frames := ⟨path, file, .error .isDirectory, 0⟩ :: s.frames }
    | .closed fault => .error (.unreadable path fault)

/-- The source of a root document. -/
def start (fs : Files) (root : Path) : Except Error Source :=
  match fs.resolve root with
  | none => .error (.documentNotFound root)
  | some file => push fs ⟨directoryOf root, []⟩ root file

/-- Puts an included document on top. Its path is tried as given, then
from the directory of the root document. -/
def include? (fs : Files) (s : Source) (path : String) : Except Error Source :=
  let asGiven : Path := ⟨path⟩
  let fromRoot := s.rootDir.join path
  match fs.resolve asGiven with
  | some file => push fs s asGiven file
  | none =>
    match fs.resolve fromRoot with
    | some file => push fs s fromRoot file
    | none => .error (.resourceNotFound path [asGiven, fromRoot])

/-- The next line of a stack of documents and the stack after it. Those
in front that have nothing left are closed; `none` once all are. -/
def nextOf : List Frame → Except Error (Option SourceLine) × List Frame
  | [] => (.ok none, [])
  | f :: rest =>
    match f.unread with
    | .error fault => (.error (.unreadable f.path fault), f :: rest)
    | .ok [] => nextOf rest
    | .ok (b :: bs) =>
      let (line, after) := splitLine (b :: bs)
      (.ok (some ⟨line, f.path, f.line + 1⟩),
        { f with unread := .ok after, line := f.line + 1 } :: rest)

/-- The next line and the source after it. -/
def nextLine (s : Source) : Except Error (Option SourceLine) × Source :=
  let (answer, frames) := nextOf s.frames
  (answer, { s with frames := frames })

end Source

end ScriptMatrix
