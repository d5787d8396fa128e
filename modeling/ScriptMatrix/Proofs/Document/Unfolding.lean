import ScriptMatrix.Proofs.Document.Expansion

/-!
# `ScriptMatrix.Proofs.Document.Unfolding`: the meaning line by line

The meaning of a document recurses on lines and on included files. Here it
is taken apart into what later proofs go by: when a file, a line and several
lines are read (`expandFile_eq_ok`, `expandLine_eq_ok`,
`expandLines_cons_eq_ok`, `expandLines_append_eq_ok`), and when they end in a
cycle (`expandFile_eq_cycle`, `expandLine_eq_cycle`).

`expandLines_induction` is the induction on lines and included files at
once. A document is read without an error just if all lines of its file are
(`expandLines_of_read`, `read_of_expandLines`).
-/

set_option autoImplicit false

namespace ScriptMatrix

-- With these, a run on given files can be decided.
deriving instance DecidableEq for Document, Frame, Source, OpenBlock, Reader, Reader.Progress

namespace Draft

/-- What has been read before the first line: nothing is declared, and no block is open. -/
def blank : Draft := ⟨⟨.empty, .empty, []⟩, none⟩

/-- A line is an include if no block is open and it has that form. `Files.Includes` and
`Files.IncludesAt` speak of the form of a line only, and meet `Draft.inclusion?` here. -/
theorem inclusion?_eq_some {d : Draft} {line : Bytes} {p : String} :
    d.inclusion? line = some p ↔ d.block = none ∧ Directive.classify line = .inclusion p := by
  unfold inclusion?
  cases hblock : d.block with
  | some b => simp
  | none => cases hclassify : Directive.classify line <;> simp

/-- The end of a document is no cycle; at most a block is left open there. -/
theorem finish_ne_cycle (d : Draft) (path : Path) : d.finish ≠ .error (.includeCycle path) := by
  unfold finish
  split <;> simp

/-- A line that is taken in is no cycle. It opens no file, and a block that it ends can only
be malformed. -/
theorem takeLine_ne_cycle (d : Draft) (place : Place) (line : Bytes) (path : Path) :
    d.takeLine place line ≠ .error (.includeCycle path) := by
  unfold takeLine
  cases d.block with
  | none => cases Directive.classify line <;> simp
  | some b =>
    unfold HalfBlock.takeLine Declared.withBlock
    dsimp only
    -- Only at the end of a block can a line fail.
    split
    · cases b.kind with
      | params => cases BlockFault.readBytes AxisSet.ofValue b.text <;> simp [Except.map]
      | defaultParams => cases BlockFault.readBytes Defaults.ofValue b.text <;> simp [Except.map]
    · simp

end Draft

section
variable {fs : Files} {rootDir : Path} {reading : List Nat} {path q : Path} {file : Nat}
  {place : Place} {line : Bytes} {d d' : Draft}

/-- A file is read if it is not being read and all lines of it are. The content is named,
since a directory cannot be read through. -/
theorem expandFile_eq_ok :
    expandFile fs rootDir reading path file d = .ok d' ↔
      file ∉ reading ∧ ∃ c, fs.content file = .bytes c ∧
        expandLines fs rootDir (file :: reading) path 0 (linesOf c) d = .ok d' := by
  rw [expandFile_eq]
  by_cases hcycle : file ∈ reading
  · simp [hcycle]
  · cases hc : fs.content file <;> simp [hcycle]

/-- A file ends in a cycle if it is being read, and then under its own path, or if its lines
end in one. -/
theorem expandFile_eq_cycle :
    expandFile fs rootDir reading path file d = .error (.includeCycle q) ↔
      (file ∈ reading ∧ q = path) ∨ file ∉ reading ∧ ∃ c, fs.content file = .bytes c ∧
        expandLines fs rootDir (file :: reading) path 0 (linesOf c) d
          = .error (.includeCycle q) := by
  rw [expandFile_eq]
  by_cases hcycle : file ∈ reading
  · simp [hcycle, eq_comm]
  · cases hc : fs.content file <;> simp [hcycle]

/-- A line is read if it can be taken in, or if it includes a file that is not being read
and all lines of that are read. These are the two cases of every induction by
`expandLines_induction`. -/
theorem expandLine_eq_ok :
    expandLine fs rootDir reading place line d = .ok d' ↔
      (d.inclusion? line = none ∧ d.takeLine place line = .ok d') ∨
      ∃ p path file c, d.inclusion? line = some p ∧ fs.find? rootDir p = some (path, file) ∧
        file ∉ reading ∧ fs.content file = .bytes c ∧
        expandLines fs rootDir (file :: reading) path 0 (linesOf c) d = .ok d' := by
  rw [expandLine_eq]
  cases hinclusion : d.inclusion? line with
  | none => simp
  | some p =>
    rcases hfind : fs.find? rootDir p with _ | ⟨path, file⟩ <;> simp [hfind, expandFile_eq_ok]

/-- A line ends in a cycle if it includes a file that is being read, or one that ends in a
cycle. A line that is taken in never does. -/
theorem expandLine_eq_cycle :
    expandLine fs rootDir reading place line d = .error (.includeCycle q) ↔
      ∃ p path file, d.inclusion? line = some p ∧ fs.find? rootDir p = some (path, file) ∧
        ((file ∈ reading ∧ q = path) ∨ file ∉ reading ∧ ∃ c, fs.content file = .bytes c ∧
          expandLines fs rootDir (file :: reading) path 0 (linesOf c) d
            = .error (.includeCycle q)) := by
  rw [expandLine_eq]
  cases hinclusion : d.inclusion? line with
  | none => simp [Draft.takeLine_ne_cycle]
  | some p =>
    rcases hfind : fs.find? rootDir p with _ | ⟨path, file⟩ <;> simp [hfind, expandFile_eq_cycle]

end

section
variable (fs : Files) (rootDir : Path) (reading : List Nat) (path : Path)

/-- The first line is read before the others, as an equation: an error of the first line is
the error of the whole. -/
theorem expandLines_cons (read : Nat) (line : Bytes) (rest : List Bytes) (d : Draft) :
    expandLines fs rootDir reading path read (line :: rest) d
      = expandLine fs rootDir reading ⟨path, read + 1⟩ line d
          >>= expandLines fs rootDir reading path (read + 1) rest := by
  rw [expandLines]

/-- Lines are read up to some place and then on from there, with the numbers going on.
`InRoot.step` and `expandLines_replaceLine` cut a document in two by this. -/
theorem expandLines_append (read : Nat) (lines rest : List Bytes) (d : Draft) :
    expandLines fs rootDir reading path read (lines ++ rest) d
      = expandLines fs rootDir reading path read lines d
          >>= expandLines fs rootDir reading path (read + lines.length) rest := by
  induction lines generalizing read d with
  | nil =>
    rw [expandLines]
    rfl
  | cons line lines ih =>
    -- Both sides begin with the first line. The numbers behind it differ only in how they
    -- are added up.
    rw [List.cons_append, expandLines_cons, expandLines_cons, bind_assoc, List.length_cons,
      Nat.add_comm lines.length 1, ← Nat.add_assoc]
    congr 1
    funext d'
    exact ih (read + 1) d'

end

/-- Of two things done in turn, both succeed if the whole does. Stated for any `Except`, as
the blocks and the parameters are read by the same binds. -/
theorem bind_eq_ok {ε α β : Type} {x : Except ε α} {f : α → Except ε β} {y : β} :
    x >>= f = .ok y ↔ ∃ a, x = .ok a ∧ f a = .ok y := by
  cases x with
  | ok a =>
    constructor
    · exact fun h => ⟨a, rfl, h⟩
    · rintro ⟨_, ⟨⟩, h⟩
      exact h
  | error e =>
    constructor
    · rintro ⟨⟩
    · rintro ⟨_, ⟨⟩, _⟩

/-- Of two things done in turn, the first fails or the second does if the whole does. -/
theorem bind_eq_error {ε α β : Type} {x : Except ε α} {f : α → Except ε β} {e : ε} :
    x >>= f = .error e ↔ x = .error e ∨ ∃ a, x = .ok a ∧ f a = .error e := by
  cases x with
  | ok a =>
    constructor
    · exact fun h => .inr ⟨a, rfl, h⟩
    · rintro (⟨⟨⟩⟩ | ⟨_, ⟨⟩, h⟩)
      exact h
  | error e' =>
    constructor
    · rintro ⟨⟩
      exact .inl rfl
    · rintro (⟨⟨⟩⟩ | ⟨_, ⟨⟩, _⟩)
      rfl

section
variable {fs : Files} {rootDir : Path} {reading : List Nat} {path : Path} {read : Nat}
  {d d' : Draft}

/-- A first line and the others are read one after the other, with a draft `d₁` between
them. -/
theorem expandLines_cons_eq_ok {line : Bytes} {rest : List Bytes} :
    expandLines fs rootDir reading path read (line :: rest) d = .ok d' ↔
      ∃ d₁, expandLine fs rootDir reading ⟨path, read + 1⟩ line d = .ok d₁ ∧
        expandLines fs rootDir reading path (read + 1) rest d₁ = .ok d' := by
  rw [expandLines_cons, bind_eq_ok]

/-- Lines and the others behind them are read one after the other, with a draft `d₁` between
them. -/
theorem expandLines_append_eq_ok {lines rest : List Bytes} :
    expandLines fs rootDir reading path read (lines ++ rest) d = .ok d' ↔
      ∃ d₁, expandLines fs rootDir reading path read lines d = .ok d₁ ∧
        expandLines fs rootDir reading path (read + lines.length) rest d₁ = .ok d' := by
  rw [expandLines_append, bind_eq_ok]

end

/-- What holds of no lines, and of a line in front of others whenever it
holds of those and of the files that the line can include, holds of all
lines. -/
theorem expandLines_induction (fs : Files) {motive : List Nat → List Bytes → Prop}
    (nil : ∀ reading, motive reading [])
    (cons : ∀ reading line rest, motive reading rest →
      (∀ file c, file ∉ reading → fs.content file = .bytes c →
        motive (file :: reading) (linesOf c)) → motive reading (line :: rest))
    (reading : List Nat) (lines : List Bytes) : motive reading lines := by
  -- Every included file leaves fewer files to include, so their number comes
  -- first and the lines of one file second.
  induction hn : fs.unopened reading using Nat.strong_induction_on generalizing reading lines with
  | _ n ih =>
    subst hn
    induction lines with
    | nil => exact nil reading
    | cons line rest ihrest =>
      refine cons reading line rest ihrest fun file c hnew hc => ?_
      exact ih _ (Files.unopened_cons_lt hnew fun fault => by simp [hc]) _ _ rfl

/-- Reading a document is reading its file through, with no file above it. This is where the
modules on the meaning of lines take leave of the stack. -/
theorem read_eq_expandFile {fs : Files} {root : Path} {file : Nat}
    (hroot : fs.resolve root = some file) :
    (Document.read fs root).map Document.declared
      = expandFile fs (Source.directoryOf root) [] root file Draft.blank >>= Draft.finish := by
  have hstart : Source.start fs root = Source.push fs ⟨Source.directoryOf root, []⟩ root file := by
    rw [Source.start, hroot]
  refine Eq.trans ?_ (push_outcome fs (Source.directoryOf root) root file)
  -- A source that cannot be started fails in the same way on both sides.
  rw [Document.read, ← hstart]
  cases hs : Source.start fs root with
  | error e => rfl
  | ok s => exact ofSource_outcome (Source.start_sound hs)

/-- Reading a document is reading the lines of its file, where it has some. Only the file
itself is being read then. -/
theorem read_eq_expandLines {fs : Files} {root : Path} {file : Nat} {c : Bytes}
    (hroot : fs.resolve root = some file) (hc : fs.content file = .bytes c) :
    (Document.read fs root).map Document.declared
      = expandLines fs (Source.directoryOf root) [file] root 0 (linesOf c) Draft.blank
          >>= Draft.finish := by
  rw [read_eq_expandFile hroot, expandFile_eq, if_neg List.not_mem_nil, hc]

/-- A document is read without an error if all lines of its file are and no block is open
behind them. -/
theorem read_of_expandLines {fs : Files} {root : Path} {file : Nat} {c : Bytes} {last : Draft}
    {x : Declared} (hroot : fs.resolve root = some file) (hc : fs.content file = .bytes c)
    (hlines : expandLines fs (Source.directoryOf root) [file] root 0 (linesOf c) Draft.blank
      = .ok last) (hlast : last.finish = .ok x) :
    ∃ d, Document.read fs root = .ok d ∧ d.declared = x := by
  have hread := read_eq_expandLines hroot hc
  rw [bind_eq_ok.mpr ⟨last, hlines, hlast⟩] at hread
  cases hd : Document.read fs root with
  | error e =>
    rw [hd] at hread
    cases hread
  | ok d =>
    rw [hd] at hread
    exact ⟨d, rfl, Except.ok.inj hread⟩

/-- A document that is read without an error has a file with lines, all of which are read,
and no block is open behind them. -/
theorem expandLines_of_read {fs : Files} {root : Path} {d : Document}
    (hread : Document.read fs root = .ok d) :
    ∃ file c last, fs.resolve root = some file ∧ fs.content file = .bytes c ∧
      expandLines fs (Source.directoryOf root) [file] root 0 (linesOf c) Draft.blank = .ok last ∧
      last.finish = .ok d.declared := by
  -- A document that is not found is not read.
  cases hroot : fs.resolve root with
  | none =>
    rw [Document.read, Source.start, hroot] at hread
    cases hread
  | some file =>
    have hfile := read_eq_expandFile hroot
    rw [hread] at hfile
    obtain ⟨last, hexpand, hlast⟩ := bind_eq_ok.mp hfile.symm
    obtain ⟨-, c, hc, hlines⟩ := expandFile_eq_ok.mp hexpand
    exact ⟨file, c, last, rfl, hc, hlines, hlast⟩

end ScriptMatrix
