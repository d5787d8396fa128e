import ScriptMatrix.Block
import ScriptMatrix.Directive
import ScriptMatrix.Document.Source

/-!
# `ScriptMatrix.Document`: what a matrix document declares

A document is read line by line. Block headers open a block, whose lines
are its data until the line that closes it, wherever that line stands;
includes are followed; every other line is part of the body. A later
block takes the place of an earlier one of its kind.

Reading ends: a file that is open is not opened again, so between two
lines of one document only the others can be read. `lineBound` counts
with that.
-/

set_option autoImplicit false

namespace ScriptMatrix

/-- Lines as bytes again, each with a newline behind it; of the lines
given, the last one comes first. -/
def joinLines (latestFirst : List Bytes) : Bytes :=
  latestFirst.reverse.flatMap (· ++ [newlineByte])

/-- The axes, the default parameters and the body of a document. -/
structure Document where
  axes : AxisSet
  defaults : Defaults
  /-- The lines of the body, the last one first. -/
  lines : List Bytes
  deriving Repr

namespace Document

/-- A document that declares nothing. -/
def empty : Document := ⟨.empty, .empty, []⟩

/-- The body: its lines as they were read. -/
def body (d : Document) : Bytes := joinLines d.lines

/-- The document with another line in its body. -/
def addLine (d : Document) (line : Bytes) : Document := { d with lines := line :: d.lines }

/-- The document with the data of a block. -/
def addBlock (d : Document) (kind : BlockKind) (header : Place) (data : Bytes) :
    Except Error Document :=
  match kind with
  | .params =>
    match BlockFault.readBytes AxisSet.ofValue data with
    | .ok axes => .ok { d with axes := axes }
    | .error fault => .error (.malformedAxes fault (some header))
  | .defaultParams =>
    match BlockFault.readBytes Defaults.ofValue data with
    | .ok defaults => .ok { d with defaults := defaults }
    | .error fault => .error (.malformedDefaults fault (some header))

end Document

/-- A block whose end has not been read. -/
structure OpenBlock where
  kind : BlockKind
  header : Place
  /-- The lines of its data, the last one first. -/
  lines : List Bytes
  deriving Repr

/-- A document that is being read. -/
structure Reader where
  source : Source
  document : Document
  block : Option OpenBlock
  deriving Repr

namespace Reader

/-- What comes of a step. -/
inductive Progress where
  | more (r : Reader)
  | finished (d : Document)
  | failed (e : Error)

/-- Goes on with a reader, or stops at an error. -/
def Progress.ofExcept : Except Error Reader → Progress
  | .ok r => .more r
  | .error e => .failed e

/-- Takes in a line inside a block. -/
def takeBlockLine (r : Reader) (b : OpenBlock) (line : SourceLine) : Except Error Reader :=
  if line.bytes == blockEnd then do
    let document ← r.document.addBlock b.kind b.header (joinLines b.lines)
    return { r with document := document, block := none }
  else
    .ok { r with block := some { b with lines := line.bytes :: b.lines } }

/-- Takes in a line outside a block. -/
def takeLine (fs : Files) (r : Reader) (line : SourceLine) : Except Error Reader :=
  match Directive.classify line.bytes with
  | .block kind => .ok { r with block := some ⟨kind, line.place, []⟩ }
  | .inclusion path => do return { r with source := ← r.source.include? fs path }
  | .text => .ok { r with document := r.document.addLine line.bytes }

/-- Reads one line. At the end of the source no block may be open. -/
def step (fs : Files) (r : Reader) : Progress :=
  match r.source.nextLine with
  | (.error e, _) => .failed e
  | (.ok none, _) =>
    match r.block with
    | some b => .failed (.unterminatedBlock b.kind.name b.header)
    | none => .finished r.document
  | (.ok (some line), source) =>
    let r := { r with source := source }
    .ofExcept (match r.block with
      | some b => r.takeBlockLine b line
      | none => r.takeLine fs line)

/-- Reads at most `n` lines and whatever ends the source; `none` if there
is more. -/
def loop (fs : Files) : Nat → Reader → Option (Except Error Document)
  | 0, _ => none
  | n + 1, r =>
    match r.step fs with
    | .more r' => loop fs n r'
    | .finished d => some (.ok d)
    | .failed e => some (.error e)

end Reader

namespace Files

/-- The number of newlines in a file. -/
def newlines : Content → Nat
  | .bytes b => b.count newlineByte
  | _ => 0

/-- More lines than reading can come to: with at most `m` lines in each of
`n` files, `(m + 2) ^ (n + 1)`. -/
def lineBound (fs : Files) : Nat :=
  ((fs.contents.map newlines).foldl max 0 + 3).pow (fs.contents.length + 1)

end Files

/-- Reads the document of a source to its end. -/
def Document.ofSource (fs : Files) (s : Source) : Except Error Document :=
  (Reader.loop fs (fs.lineBound + 1) ⟨s, .empty, none⟩).getD
    (.error (.io (.other "the document does not end")))

/-- Reads the document that a path names. -/
def Document.read (fs : Files) (root : Path) : Except Error Document := do
  Document.ofSource fs (← Source.start fs root)

end ScriptMatrix
