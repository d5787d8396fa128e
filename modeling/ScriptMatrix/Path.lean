/-!
# `ScriptMatrix.Path`: file paths

A path is a text with slashes. What it names depends on its components
only: empty pieces and pieces `.` say nothing, except for a `.` in front
of everything. The text is nevertheless kept, because messages show paths
the way they were written or joined.
-/

set_option autoImplicit false

namespace ScriptMatrix

/-- A path as written. -/
structure Path where
  text : String
  deriving Repr, DecidableEq

/-- A step of a path. -/
inductive Component where
  /-- The root directory, in front of an absolute path. -/
  | root
  /-- The directory one is in, in front of a relative path. -/
  | here
  /-- The directory above. -/
  | up
  | name (s : List Char)
  deriving Repr, DecidableEq

namespace Path

/-- The pieces between the slashes of a text, always at least one. -/
def pieces : List Char → List (List Char)
  | [] => [[]]
  | c :: cs =>
    if c == '/' then [] :: pieces cs
    else match pieces cs with
      | [] => [[c]]
      | p :: ps => (c :: p) :: ps

/-- Whether a path starts at the root directory. -/
def isAbsolute (p : Path) : Bool := p.text.toList.head? == some '/'

/-- The step that a piece stands for, unless it says nothing. -/
def stepOf (piece : List Char) : Option Component :=
  if piece.isEmpty || piece == ['.'] then none
  else if piece == ['.', '.'] then some .up
  else some (.name piece)

/-- What stands in front of the pieces that are names. -/
def lead (p : Path) : List Component :=
  match pieces p.text.toList with
  | ['.'] :: _ => [.here]
  | _ => if p.isAbsolute then [.root] else []

/-- The steps of a path. -/
def components (p : Path) : List Component :=
  p.lead ++ (pieces p.text.toList).filterMap stepOf

/-- Appends a relative path to a directory; an absolute one stands for
itself. -/
def join (dir : Path) (sub : String) : Path :=
  if (Path.mk sub).isAbsolute || dir.text.isEmpty then ⟨sub⟩
  else if dir.text.toList.getLast? == some '/' then ⟨dir.text ++ sub⟩
  else ⟨dir.text ++ "/" ++ sub⟩

/-- Drops pieces that say nothing from the end of reversed pieces. -/
def dropIdle (ps : List (List Char)) : List (List Char) :=
  ps.dropWhile fun piece => piece.isEmpty || piece == ['.']

/-- The path of the directory that holds what a path names: the path
without its last step and without what says nothing in front of that.
Nothing holds the root directory, and the empty path names nothing. -/
def parent? (p : Path) : Option Path :=
  match p.components.getLast? with
  | none | some .root => none
  | some .here => some ⟨""⟩
  | some _ =>
    let kept := dropIdle ((dropIdle (pieces p.text.toList).reverse).drop 1)
    let front := if p.isAbsolute then "/" else ""
    match kept with
    | [] => some (if p.lead == [.here] then ⟨"."⟩ else ⟨front⟩)
    | _ => some ⟨"/".intercalate (kept.reverse.map String.ofList)⟩

/-- The last step of a path, if it is a name. -/
def fileName? (p : Path) : Option (List Char) :=
  match p.components.getLast? with
  | some (.name s) => some s
  | _ => none

/-- A file name without its extension: what stands before the last dot,
unless nothing does. -/
def stemOf (name : List Char) : List Char :=
  match name.reverse.dropWhile (· != '.') with
  | [] | ['.'] => name
  | _ :: before => before.reverse

/-- The file name of a path without its extension. -/
def fileStem? (p : Path) : Option String := p.fileName?.map fun n => String.ofList (stemOf n)

end Path

end ScriptMatrix
