import Mathlib.Data.Finset.Card
import Mathlib.Data.Finset.Range
import ScriptMatrix.Document
import ScriptMatrix.Proofs.Document.Stack

/-!
# `ScriptMatrix.Proofs.Document.Meaning`: what a document means

The meaning of a document, by recursion on its lines and its includes.
`expandFile` reads a file through, `expandLine` reads a line of one.
What has been read so far is a `Draft`, which goes from line to line and
through the whole of an included file before the line behind the include.
No stack is kept: the files that are being read are an argument.

`Document.meaning` is the meaning of the document that a path names. The
recursion ends because a file is not read inside itself: with each include
fewer files are left (`unopened_cons_lt`).

A line is either an include that is followed (`Draft.inclusion?`), or it is
taken in where it stands (`Draft.takeLine`); `expandLine_eq` says so.
-/

set_option autoImplicit false

namespace ScriptMatrix

/-- What a document declares: its axes, its defaults and its body. In a `Document` the body
is kept as lines, here as the bytes they come to (`Document.declared`). -/
structure Declared where
  axes : AxisSet
  defaults : Defaults
  body : Bytes
  deriving Repr

/-- A block whose end has not come: its kind, the place of its header, and its text so far.
It is the `OpenBlock` of a reader with its lines joined. -/
structure HalfBlock where
  kind : BlockKind
  header : Place
  text : Bytes
  deriving Repr

/-- What has been read of a document so far. It is all that goes from one line to the next,
also into an included file and back out of it. -/
structure Draft where
  declared : Declared
  block : Option HalfBlock
  deriving Repr

/-- The declarations with those of a block, which take the place of earlier ones of its
kind. A fault in the block is told with the place of its header. -/
def Declared.withBlock (d : Declared) (b : HalfBlock) : Except Error Declared :=
  match b.kind with
  | .params =>
    match BlockFault.readBytes AxisSet.ofValue b.text with
    | .ok axes => .ok { d with axes := axes }
    | .error fault => .error (.malformedAxes fault (some b.header))
  | .defaultParams =>
    match BlockFault.readBytes Defaults.ofValue b.text with
    | .ok defaults => .ok { d with defaults := defaults }
    | .error fault => .error (.malformedDefaults fault (some b.header))

/-- A block takes every line in as it stands, until a line `end`. Includes and headers are
ordinary lines of it. -/
def HalfBlock.takeLine (b : HalfBlock) (d : Declared) (line : Bytes) : Except Error Draft :=
  if line = Text.encode "end" then (d.withBlock b).map fun d' => ⟨d', none⟩
  else .ok ⟨d, some { b with text := b.text ++ line ++ [newlineByte] }⟩

/-- A line of the body. -/
def Declared.addLine (d : Declared) (line : Bytes) : Declared :=
  { d with body := d.body ++ line ++ [newlineByte] }

/-- What is declared once everything has been read. No block may be open
then. -/
def Draft.finish (d : Draft) : Except Error Declared :=
  match d.block with
  | none => .ok d.declared
  | some b => .error (.unterminatedBlock b.kind.name b.header)

/-- The number of files besides the given ones. This is what `expandFile` gets down: each
file that it goes into leaves one fewer. -/
def Files.unopened (fs : Files) (files : List Nat) : Nat :=
  (Finset.range fs.contents.length \ files.toFinset).card

/-- Another file that is being read is one less for includes. That it can be opened makes it
one of the files that `unopened` counts. -/
theorem Files.unopened_cons_lt {fs : Files} {files : List Nat} {file : Nat}
    (hnew : file ∉ files) (hc : ∀ fault, fs.content file ≠ .closed fault) :
    fs.unopened (file :: files) < fs.unopened files := by
  -- What is left out now was left out before, and the new file was not.
  refine Finset.card_lt_card (Finset.ssubset_iff_of_subset ?_ |>.mpr ⟨file, ?_, ?_⟩)
  · refine Finset.sdiff_subset_sdiff (Finset.Subset.refl _) fun other hother => ?_
    rw [List.mem_toFinset] at hother ⊢
    exact List.mem_cons_of_mem file hother
  · rw [Finset.mem_sdiff, Finset.mem_range, List.mem_toFinset]
    exact ⟨Files.lt_length_of_content hc, hnew⟩
  · rw [Finset.mem_sdiff, List.mem_toFinset]
    exact fun h => h.2 List.mem_cons_self

mutual

/-- Reads a file through, under a path. The files `above` are being read
and cannot be read again inside themselves. -/
def expandFile (fs : Files) (rootDir : Path) (above : List Nat) (path : Path) (file : Nat)
    (d : Draft) : Except Error Draft :=
  if _hcycle : file ∈ above then .error (.includeCycle path)
  else match _hc : fs.content file with
    | .bytes c => expandLines fs rootDir (file :: above) path 0 (linesOf c) d
    | .directory => .error (.unreadable path .isDirectory)
    | .closed fault => .error (.unreadable path fault)
termination_by (fs.unopened above, 0)
decreasing_by
  exact .left _ _ (Files.unopened_cons_lt _hcycle fun fault => by simp [_hc])

/-- Reads the lines of a file in order, of which `read` have been read.
The file and those it is included from are `reading`. -/
def expandLines (fs : Files) (rootDir : Path) (reading : List Nat) (path : Path) (read : Nat)
    (lines : List Bytes) (d : Draft) : Except Error Draft :=
  match lines with
  | [] => .ok d
  | line :: rest => do
    let d' ← expandLine fs rootDir reading ⟨path, read + 1⟩ line d
    expandLines fs rootDir reading path (read + 1) rest d'
termination_by (fs.unopened reading, lines.length + 1)
decreasing_by
  · exact .right _ (by simp)
  · exact .right _ (by simp)

/-- Reads one line. Inside a block it belongs to the block. Outside, it
opens a block, stands for a file that it includes, or belongs to the
body. -/
def expandLine (fs : Files) (rootDir : Path) (reading : List Nat) (place : Place) (line : Bytes)
    (d : Draft) : Except Error Draft :=
  match d.block with
  | some b => b.takeLine d.declared line
  | none =>
    if line = Text.encode "params:" then .ok { d with block := some ⟨.params, place, []⟩ }
    else if line = Text.encode "default_params:" then
      .ok { d with block := some ⟨.defaultParams, place, []⟩ }
    else match Directive.classify line with
      | .inclusion p =>
        match fs.find? rootDir p with
        | some (path, file) => expandFile fs rootDir reading path file d
        | none => .error (.resourceNotFound p [⟨p⟩, rootDir.join p])
      | _ => .ok { d with declared := d.declared.addLine line }
termination_by (fs.unopened reading, 1)
decreasing_by
  exact .right _ (by simp)

end

/-- The equation of `expandFile` without the two facts that its recursion ends by, so that
it can be rewritten with under either outcome of the check. -/
theorem expandFile_eq (fs : Files) (rootDir : Path) (above : List Nat) (path : Path) (file : Nat)
    (d : Draft) :
    expandFile fs rootDir above path file d
      = if file ∈ above then .error (.includeCycle path)
        else match fs.content file with
          | .bytes c => expandLines fs rootDir (file :: above) path 0 (linesOf c) d
          | .directory => .error (.unreadable path .isDirectory)
          | .closed fault => .error (.unreadable path fault) := by
  rw [expandFile]
  -- The two sides test the same, but the left one keeps the outcomes for its recursion.
  by_cases hcycle : file ∈ above
  · rw [dif_pos hcycle, if_pos hcycle]
  · rw [dif_neg hcycle, if_neg hcycle]
    split <;> rename_i hc <;> rw [hc]

/-- The meaning of the document that a path names. -/
def Document.meaning (fs : Files) (root : Path) : Except Error Declared :=
  match fs.resolve root with
  | none => .error (.documentNotFound root)
  | some file =>
    expandFile fs (Source.directoryOf root) [] root file ⟨⟨.empty, .empty, []⟩, none⟩
      >>= Draft.finish

/-! ### Lines that are includes and lines that are not -/

namespace Draft

/-- The path of the include that a line is. Inside a block no line is one, so this depends
on the draft as well as on the line. -/
def inclusion? (d : Draft) (line : Bytes) : Option String :=
  match d.block, Directive.classify line with
  | none, .inclusion p => some p
  | _, _ => none

/-- Takes in a line that is no include: it belongs to the open block, opens one, or belongs
to the body. -/
def takeLine (d : Draft) (place : Place) (line : Bytes) : Except Error Draft :=
  match d.block with
  | some b => b.takeLine d.declared line
  | none =>
    match Directive.classify line with
    | .block kind => .ok { d with block := some ⟨kind, place, []⟩ }
    | _ => .ok { d with declared := d.declared.addLine line }

end Draft

/-- The header of a `params` block, as `Directive.classify` compares lines with it. -/
theorem header_params : BlockKind.params.header = Text.encode "params:" := by decide +kernel

/-- The header of a `default_params` block, as `Directive.classify` compares lines with it. -/
theorem header_defaultParams : BlockKind.defaultParams.header = Text.encode "default_params:" := by
  decide +kernel

/-- A line that is neither of the two headers opens no block. What is left for it is an
include or text. -/
theorem classify_ne_block {line : Bytes} (hparams : line ≠ BlockKind.params.header)
    (hdefaults : line ≠ BlockKind.defaultParams.header) (kind : BlockKind) :
    Directive.classify line ≠ .block kind := by
  unfold Directive.classify
  rw [if_neg (by simpa using hparams), if_neg (by simpa using hdefaults)]
  -- Behind the headers, a line is no text in UTF-8, or a text with a path or without one.
  split
  · simp
  · split <;> simp

/-- A line is an include and stands for a file, or it is taken in by `takeLine`. The later
proofs split on this one match instead of the tests of `expandLine`. -/
theorem expandLine_eq (fs : Files) (rootDir : Path) (reading : List Nat) (place : Place)
    (line : Bytes) (d : Draft) :
    expandLine fs rootDir reading place line d = match d.inclusion? line with
      | none => d.takeLine place line
      | some p => match fs.find? rootDir p with
        | some (path, file) => expandFile fs rootDir reading path file d
        | none => .error (.resourceNotFound p [⟨p⟩, rootDir.join p]) := by
  rw [expandLine]
  cases hblock : d.block with
  | some b => simp only [Draft.inclusion?, Draft.takeLine, hblock]
  | none =>
    -- Outside a block `expandLine` tests for the headers one by one, where `takeLine` asks
    -- `Directive.classify` once. The two tests come first here for that reason.
    rw [← header_params, ← header_defaultParams]
    unfold Draft.inclusion? Draft.takeLine
    rw [hblock]
    by_cases hparams : line = BlockKind.params.header
    · have hclassify : Directive.classify line = .block .params := by
        rw [Directive.classify, if_pos (by simpa using hparams)]
      simp only [hclassify, if_pos hparams]
    by_cases hdefaults : line = BlockKind.defaultParams.header
    · have hclassify : Directive.classify line = .block .defaultParams := by
        rw [Directive.classify, if_neg (by simpa using hparams), if_pos (by simpa using hdefaults)]
      simp only [hclassify, if_neg hparams, if_pos hdefaults]
    simp only [if_neg hparams, if_neg hdefaults]
    cases hclassify : Directive.classify line with
    | block kind => exact absurd hclassify (classify_ne_block hparams hdefaults kind)
    | inclusion p => rfl
    | text => rfl

end ScriptMatrix
