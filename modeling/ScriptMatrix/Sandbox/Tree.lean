import ScriptMatrix.Document.Files

/-!
# `ScriptMatrix.Sandbox.Tree`: files held in memory

A `Tree` is a set of files and directories, each at its place: the names
on the way from the root directory. Paths lead to places step by step,
from a current directory: a step needs a directory to start from, so
`x/..` leads nowhere if `x` is a file or does not exist.
-/

set_option autoImplicit false

namespace ScriptMatrix.Sandbox

/-- Where a file is: the names from the root directory down. -/
abbrev Location := List String

/-- A file or a directory. -/
inductive Entry where
  | file (b : Bytes)
  | directory
  /-- A file that is always empty: what is written to it is gone. -/
  | void
  deriving Repr, DecidableEq

/-- Files and directories in memory. -/
structure Tree where
  entries : List (Location × Entry)
  /-- Where relative paths start. -/
  current : Location
  deriving Repr

namespace Tree

/-- What is at a place; the root directory is always there. -/
def get? (t : Tree) (place : Location) : Option Entry :=
  if place.isEmpty then some .directory else t.entries.lookup place

/-- The tree with something at a place. -/
def put (t : Tree) (place : Location) (e : Entry) : Tree :=
  if t.entries.any (·.1 == place) then
    { t with entries := t.entries.map fun x => if x.1 == place then (place, e) else x }
  else { t with entries := t.entries ++ [(place, e)] }

/-- The tree without what is at a place. -/
def erase (t : Tree) (place : Location) : Tree :=
  { t with entries := t.entries.filter (·.1 != place) }

/-- How many bytes a name may have. -/
def nameLimit : Nat := 255

/-- How many bytes a path may not have. -/
def pathLimit : Nat := 4096

/-- The steps of a path, those that say nothing included. -/
def steps (p : Path) : List String := (Path.pieces p.text.toList).map String.ofList

/-- Goes along steps from a place. -/
def walkFrom (t : Tree) (place : Location) : List String → Except Fault Location
  | [] => .ok place
  | s :: rest =>
    if t.get? place != some .directory then .error .notDirectory
    else if s == "" || s == "." then walkFrom t place rest
    else if s == ".." then walkFrom t place.dropLast rest
    else if nameLimit < s.utf8ByteSize then .error .nameTooLong
    else if (t.get? (place ++ [s])).isSome then walkFrom t (place ++ [s]) rest
    else .error .notFound

/-- What keeps a text from being a path at all. -/
def pathFault? (p : Path) : Option Fault :=
  if p.text.toList.any (· == '\x00') then some .nulInName
  else if p.text.isEmpty then some .notFound
  else if pathLimit ≤ p.text.utf8ByteSize then some .nameTooLong
  else none

/-- Where the walk along a path begins. -/
def startOf (t : Tree) (p : Path) : Location := if p.isAbsolute then [] else t.current

/-- The place that a path leads to. -/
def walk (t : Tree) (p : Path) : Except Fault Location :=
  match pathFault? p with
  | some fault => .error fault
  | none => t.walkFrom (t.startOf p) (steps p)

/-- What a path leads to. -/
def find? (t : Tree) (p : Path) : Option Entry :=
  match t.walk p with
  | .ok place => t.get? place
  | .error _ => none

/-- Whether a path leads to a directory. -/
def isDirectory (t : Tree) (p : Path) : Bool := t.find? p == some .directory

/-- The steps in front of the last one that says something, that one, and
whether something stands behind it. -/
def splitSteps (p : Path) : List String × String × Bool :=
  let reversed := (steps p).reverse
  let idle := reversed.takeWhile (· == "")
  match reversed.dropWhile (· == "") with
  | [] => ([], "", true)
  | s :: rest => (rest.reverse, s, !idle.isEmpty)

/-- The place that a path would have after its last step, if that is a
name and the steps before lead to a directory. -/
def target (t : Tree) (p : Path) : Except Fault (Location × Bool) :=
  match pathFault? p with
  | some fault => .error fault
  | none =>
    let (front, last, trailing) := splitSteps p
    match t.walkFrom (t.startOf p) front with
    | .error fault => .error fault
    | .ok place =>
      if t.get? place != some .directory then .error .notDirectory
      else if last == "" || last == "." || last == ".." then .error .exists
      else if nameLimit < last.utf8ByteSize then .error .nameTooLong
      else .ok (place ++ [last], trailing)

/-- Writes a file, in place of what it held. A slash at the end of the path
asks for a directory, also where there is a file. -/
def write (t : Tree) (p : Path) (b : Bytes) : Except Fault Tree :=
  match t.walk p with
  | .ok place =>
    match t.get? place with
    | some .directory => .error .isDirectory
    | some .void => .ok t
    | _ => .ok (t.put place (.file b))
  | .error fault =>
    if fault == .notFound || fault == .notDirectory then
      match t.target p with
      | .error fault => .error fault
      | .ok (place, trailing) =>
        if trailing then .error .isDirectory else .ok (t.put place (.file b))
    else .error fault

/-- Reads a file. -/
def read (t : Tree) (p : Path) : Except Fault Bytes :=
  match t.walk p with
  | .error fault => .error fault
  | .ok place =>
    match t.get? place with
    | some (.file b) => .ok b
    | some .directory => .error .isDirectory
    | some .void => .ok []
    | none => .error .notFound

/-- Makes a directory in one that is there. -/
def makeDirectory (t : Tree) (p : Path) : Except Fault Tree :=
  match t.target p with
  | .error fault => .error fault
  | .ok (place, _) =>
    if (t.get? place).isSome then .error .exists else .ok (t.put place .directory)

/-- Makes a directory and those above it that are not there. -/
def makeDirectoriesFrom (t : Tree) : Nat → Path → Except Fault Tree
  | 0, _ => .error .notFound
  | fuel + 1, p =>
    if p.components.isEmpty then .ok t
    else match t.makeDirectory p with
      | .ok t' => .ok t'
      | .error .notFound =>
        match p.parent? with
        | none => .error .notFound
        | some dir => do
          let t' ← t.makeDirectoriesFrom fuel dir
          match t'.makeDirectory p with
          | .ok t'' => .ok t''
          | .error fault => if t'.isDirectory p then .ok t' else .error fault
      | .error fault => if t.isDirectory p then .ok t else .error fault

/-- Makes a directory and those above it that are not there. -/
def makeDirectories (t : Tree) (p : Path) : Except Fault Tree :=
  t.makeDirectoriesFrom (p.text.length + 2) p

/-- The number of a place among the entries; the root directory comes
behind all of them. -/
def numberOf (t : Tree) (place : Location) : Nat :=
  t.entries.findIdx (·.1 == place)

/-- The tree as files to read documents from. -/
def files (t : Tree) : Files where
  contents := (t.entries.map fun e => match e.2 with
    | .file b => Content.bytes b
    | .void => Content.bytes []
    | .directory => Content.directory) ++ [.directory]
  resolve p :=
    match t.walk p with
    | .ok place => some (t.numberOf place)
    | .error _ => none

/-- The tree with a file or directory at a path from the current
directory, and the directories above it. -/
def addAt (t : Tree) (p : Path) (e : Entry) : Tree :=
  let names := (steps p).filter fun s => s != "" && s != "."
  let places := (List.range names.length).map fun i => t.current ++ names.take (i + 1)
  let above := places.dropLast.foldl (fun t place =>
    if (t.get? place).isSome then t else t.put place .directory) t
  match places.getLast? with
  | none => above
  | some place => above.put place e

end Tree

end ScriptMatrix.Sandbox
