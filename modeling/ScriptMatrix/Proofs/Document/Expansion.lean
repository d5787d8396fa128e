import ScriptMatrix.Proofs.Document.Meaning
import ScriptMatrix.Proofs.Document.Termination

/-!
# `ScriptMatrix.Proofs.Document.Expansion`: reading computes the meaning

A reader takes one line at a time from a stack of half-read documents.
`Reader.outcome` is what the meaning makes of such a state: the documents
of the stack are read through one after the other, each with those below
it as the files that are being read. `step_outcome` shows that no step of
a reader changes the outcome and that the last one gives it.
-/

set_option autoImplicit false

namespace ScriptMatrix

/-- What a document declares, with its body as bytes. The two sides of `read_eq_meaning` are
compared as this. -/
def Document.declared (d : Document) : Declared := ⟨d.axes, d.defaults, d.body⟩

/-- A block that is being read, with its lines as text. The reader keeps them last first. -/
def OpenBlock.half (b : OpenBlock) : HalfBlock := ⟨b.kind, b.header, joinLines b.lines⟩

/-- What a reader has read so far, as the meaning keeps it. The rest of the reader is its
stack. -/
def Reader.draft (r : Reader) : Draft := ⟨r.document.declared, r.block.map OpenBlock.half⟩

/-- Reads the documents of a stack through, the one in front first. The files below a
document are those that are being read around it. -/
def resume (fs : Files) (rootDir : Path) : List Frame → Draft → Except Error Draft
  | [], d => .ok d
  | f :: rest, d => do
    let d' ← match f.unread with
      | .ok _ => expandLines fs rootDir (f.file :: rest.map (·.file)) f.path f.line f.lines d
      | .error fault => .error (.unreadable f.path fault)
    resume fs rootDir rest d'

/-- What the meaning makes of a reader: its stack read through from its draft, and what is
declared in the end. No step changes it. -/
def Reader.outcome (fs : Files) (r : Reader) : Except Error Declared :=
  resume fs r.source.rootDir r.source.frames r.draft >>= Draft.finish

/-- What the meaning makes of what comes of a step. For the last step that is its answer. -/
def Reader.Progress.outcome (fs : Files) : Reader.Progress → Except Error Declared
  | .more r => r.outcome fs
  | .finished d => .ok d.declared
  | .failed e => .error e

/-! ### Lines and blocks -/

/-- A line that comes last is joined last: the reader has its lines in reverse. -/
theorem joinLines_cons (line : Bytes) (before : List Bytes) :
    joinLines (line :: before) = joinLines before ++ line ++ [newlineByte] := by
  simp [joinLines, List.flatMap_append]

/-- A line of the body goes to the same end on both sides. -/
theorem declared_addLine (d : Document) (line : Bytes) :
    (d.addLine line).declared = d.declared.addLine line := by
  simp only [Document.declared, Document.addLine, Document.body, Declared.addLine, joinLines_cons]

/-- The data of a block takes its place as the meaning says, or the block has the same
fault. -/
theorem declared_addBlock (d : Document) (b : OpenBlock) :
    (d.addBlock b.kind b.header (joinLines b.lines)).map Document.declared
      = d.declared.withBlock b.half := by
  unfold Document.addBlock Declared.withBlock OpenBlock.half
  cases b.kind with
  | params => cases BlockFault.readBytes AxisSet.ofValue (joinLines b.lines) <;> rfl
  | defaultParams => cases BlockFault.readBytes Defaults.ofValue (joinLines b.lines) <;> rfl

/-! ### The stack -/

/-- Documents that have nothing left change nothing. A reader closes them on its way to the
next line, and the meaning passes over them. -/
theorem resume_closed (fs : Files) (rootDir : Path) {done : List Frame}
    (hdone : ∀ g ∈ done, g.unread = .ok []) (frames : List Frame) (d : Draft) :
    resume fs rootDir (done ++ frames) d = resume fs rootDir frames d := by
  induction done with
  | nil => rfl
  | cons g done ih =>
    -- A document without lines leaves the draft as it is.
    obtain ⟨hg, hrest⟩ := List.forall_mem_cons.mp hdone
    rw [List.cons_append, resume, Frame.lines_of_ok hg, linesOf_nil, expandLines, hg]
    exact ih hrest

/-- Where all documents have nothing left to read, the draft stays as it is. At the end of a
source this is all there is to its outcome. -/
theorem resume_eq_ok (fs : Files) (rootDir : Path) {done : List Frame}
    (hdone : ∀ g ∈ done, g.unread = .ok []) (d : Draft) : resume fs rootDir done d = .ok d := by
  have hclosed := resume_closed fs rootDir hdone [] d
  rwa [List.append_nil, resume] at hclosed

/-- The first line that is left of the document in front is read before the rest of the
stack. With `resume_closed` it is found in a stack as `Asked` gives it. -/
theorem resume_line (fs : Files) (rootDir : Path) {f : Frame} {l u : Bytes}
    (hf : f.lines = l :: linesOf u) (rest : List Frame) (d : Draft) :
    resume fs rootDir (f :: rest) d
      = expandLine fs rootDir (f.file :: rest.map (·.file)) ⟨f.path, f.line + 1⟩ l d
          >>= resume fs rootDir (f.behind u :: rest) := by
  cases hu : f.unread with
  | error fault =>
    rw [Frame.lines_of_error hu] at hf
    exact absurd hf (by simp)
  | ok c =>
    rw [resume, hu, hf, expandLines]
    exact bind_assoc _ _ _

/-- A document that is put on top is read through before the rest. It is refused as a cycle
just if `expandFile` refuses it, because the open files are those that are being read. -/
theorem push_resume (fs : Files) (s : Source) (path : Path) (file : Nat) (d : Draft) :
    (Source.push fs s path file >>= fun s' => resume fs s'.rootDir s'.frames d)
      = expandFile fs s.rootDir (s.frames.map (·.file)) path file d
          >>= resume fs s.rootDir s.frames := by
  unfold Source.push
  rw [expandFile_eq]
  by_cases hcycle : file ∈ s.frames.map (·.file)
  · -- The source asks its frames what the meaning asks the list of files.
    have hany : s.frames.any (·.file == file) = true := by simpa using hcycle
    rw [if_pos hany, if_pos hcycle]
    rfl
  · have hany : ¬s.frames.any (·.file == file) = true := by simpa using hcycle
    rw [if_neg hany, if_neg hcycle]
    cases fs.content file <;> rfl

/-- A document that is included is read through before the rest, or is not found on either
side. -/
theorem include?_resume (fs : Files) (s : Source) (p : String) (d : Draft) :
    (s.include? fs p >>= fun s' => resume fs s'.rootDir s'.frames d)
      = (match fs.find? s.rootDir p with
          | some (path, file) =>
            expandFile fs s.rootDir (s.frames.map (·.file)) path file d
          | none => .error (.resourceNotFound p [⟨p⟩, s.rootDir.join p]))
        >>= resume fs s.rootDir s.frames := by
  rw [Source.include?_eq]
  cases fs.find? s.rootDir p with
  | none => rfl
  | some found => exact push_resume fs s found.1 found.2 d

namespace Reader

/-- A line inside a block comes to the same as in the meaning. The stack plays no part, but
it comes behind, so the equation is with all of it. -/
theorem takeBlockLine_resume (fs : Files) (r : Reader) (b : OpenBlock) (line : SourceLine) :
    (r.takeBlockLine b line >>= fun r' =>
        resume fs r'.source.rootDir r'.source.frames r'.draft)
      = b.half.takeLine r.document.declared line.bytes
          >>= resume fs r.source.rootDir r.source.frames := by
  unfold takeBlockLine HalfBlock.takeLine
  by_cases hend : line.bytes = Text.encode "end"
  · have hend' : (line.bytes == blockEnd) = true := by simp [hend, blockEnd]
    rw [if_pos hend', if_pos hend, ← declared_addBlock]
    cases r.document.addBlock b.kind b.header (joinLines b.lines) <;> rfl
  · have hend' : ¬(line.bytes == blockEnd) = true := by simpa [blockEnd] using hend
    rw [if_neg hend', if_neg hend]
    show resume fs r.source.rootDir r.source.frames (draft _)
      = resume fs r.source.rootDir r.source.frames _
    simp only [draft, Option.map_some, OpenBlock.half, joinLines_cons]

/-- A line outside a block comes to the same as in the meaning. Only an include touches the
stack. -/
theorem takeLine_resume (fs : Files) (r : Reader) (line : SourceLine) (hblock : r.block = none) :
    (r.takeLine fs line >>= fun r' => resume fs r'.source.rootDir r'.source.frames r'.draft)
      = expandLine fs r.source.rootDir (r.source.frames.map (·.file)) line.place line.bytes r.draft
          >>= resume fs r.source.rootDir r.source.frames := by
  have hdraft : r.draft = ⟨r.document.declared, none⟩ := by rw [draft, hblock, Option.map_none]
  rw [expandLine_eq, hdraft, Draft.inclusion?, Draft.takeLine, takeLine]
  cases Directive.classify line.bytes with
  | block kind => rfl
  | text =>
    show resume fs r.source.rootDir r.source.frames
        (draft { r with document := r.document.addLine line.bytes }) = _
    rw [draft, declared_addLine, hblock]
    rfl
  | inclusion p =>
    -- The reader puts the document on its stack; the meaning reads it through
    -- before it goes on with the stack below. `include?_resume` exchanges the two.
    refine Eq.trans ?_ (include?_resume fs r.source p ⟨r.document.declared, none⟩)
    dsimp only
    cases r.source.include? fs p with
    | error e => rfl
    | ok s' =>
      show resume fs s'.rootDir s'.frames (draft { r with source := s' }) = _
      rw [show draft { r with source := s' } = r.draft from rfl, hdraft]
      rfl

/-- A line comes to the same as in the meaning, inside a block and outside. On the left the
stack may have grown, on the right it is the one before the line. -/
theorem take_resume (fs : Files) (r : Reader) (line : SourceLine) :
    (r.take fs line >>= fun r' => resume fs r'.source.rootDir r'.source.frames r'.draft)
      = expandLine fs r.source.rootDir (r.source.frames.map (·.file)) line.place line.bytes r.draft
          >>= resume fs r.source.rootDir r.source.frames := by
  unfold take
  cases hblock : r.block with
  | none => exact takeLine_resume fs r line hblock
  | some b =>
    have hdraft : r.draft = ⟨r.document.declared, some b.half⟩ := by
      rw [draft, hblock, Option.map_some]
    -- A line of a block is no include, so the meaning leaves the stack alone too.
    rw [hdraft, expandLine]
    exact takeBlockLine_resume fs r b line

/-- The outcome of a line that has been taken in, or the error it has led to. -/
theorem ofExcept_outcome (fs : Files) (x : Except Error Reader) :
    (Progress.ofExcept x).outcome fs = x >>= outcome fs := by
  cases x <;> rfl

/-- No step changes what the meaning makes of a reader. There is one case for each of the
ways that `Stepped` lists. -/
theorem step_outcome (fs : Files) (r : Reader) : (r.step fs).outcome fs = r.outcome fs := by
  have hstepped := step_stepped fs r
  rw [outcome]
  generalize r.step fs = progress at hstepped
  cases hstepped with
  | finished hall hblock =>
    rw [resume_eq_ok fs _ hall, draft, hblock]
    rfl
  | unterminated b hall hblock =>
    rw [resume_eq_ok fs _ hall, draft, hblock]
    rfl
  | stuck done f rest fault hframes hdone hf =>
    rw [hframes, resume_closed fs _ hdone, resume, hf]
    rfl
  | line done f rest l u hframes hdone hf =>
    -- Here the reader has taken the line off its document already, and the
    -- meaning is about to read it with that document at the head of those open.
    rw [hframes, resume_closed fs _ hdone, resume_line fs _ hf, ofExcept_outcome]
    have htake := take_resume fs { r with source := ⟨r.source.rootDir, f.behind u :: rest⟩ }
      ⟨l, ⟨f.path, f.line + 1⟩⟩
    refine Eq.trans ?_ (congrArg (· >>= Draft.finish) htake)
    exact (bind_assoc _ _ _).symm

/-- What a loop gives is what the meaning makes of the reader it starts from, for any number
of steps in which it gives something. -/
theorem loop_outcome {fs : Files} {n : Nat} {r : Reader} {x : Except Error Document}
    (h : loop fs n r = some x) : x.map Document.declared = r.outcome fs := by
  induction n generalizing r with
  | zero => cases h
  | succ n ih =>
    -- No step changes the outcome, so it is read off the last one.
    rw [← step_outcome]
    rw [loop] at h
    cases hstep : r.step fs with
    | more r' =>
      rw [hstep] at h
      exact ih h
    | finished d =>
      rw [hstep] at h
      cases h
      rfl
    | failed e =>
      rw [hstep] at h
      cases h
      rfl

end Reader

/-- Reading the rest of a source gives what the meaning makes of its stack. That the source
is sound makes the loop end. -/
theorem ofSource_outcome {fs : Files} {s : Source} (h : s.Sound fs) :
    (Document.ofSource fs s).map Document.declared = Reader.outcome fs ⟨s, .empty, none⟩ := by
  obtain ⟨x, hloop, hx⟩ := Document.ofSource_eq h
  rw [hx]
  exact Reader.loop_outcome hloop

/-- A source whose root document has just been put on its empty stack has the meaning of
that document. -/
theorem push_outcome (fs : Files) (rootDir root : Path) (file : Nat) :
    (Source.push fs ⟨rootDir, []⟩ root file >>= fun s => Reader.outcome fs ⟨s, .empty, none⟩)
      = expandFile fs rootDir [] root file ⟨⟨.empty, .empty, []⟩, none⟩ >>= Draft.finish := by
  have hpush := push_resume fs ⟨rootDir, []⟩ root file ⟨⟨.empty, .empty, []⟩, none⟩
  -- There is nothing below the root document.
  have hbelow : ∀ x : Except Error Draft, (x >>= resume fs rootDir []) = x := fun x => by
    cases x <;> rfl
  rw [List.map_nil, hbelow] at hpush
  rw [← hpush]
  exact (bind_assoc _ _ _).symm

/-- **Reading computes the meaning.** A document that is read line by line
from a stack declares what its recursive meaning says, or fails with the
same error at the same place. -/
theorem read_eq_meaning (fs : Files) (root : Path) :
    (Document.read fs root).map Document.declared = Document.meaning fs root := by
  unfold Document.read Document.meaning
  cases hroot : fs.resolve root with
  | none =>
    rw [Source.start, hroot]
    rfl
  | some file =>
    have hstart : Source.start fs root
        = Source.push fs ⟨Source.directoryOf root, []⟩ root file := by
      rw [Source.start, hroot]
    calc (Source.start fs root >>= Document.ofSource fs).map Document.declared
        = (Source.start fs root >>= fun s => Reader.outcome fs ⟨s, .empty, none⟩) := by
          cases hs : Source.start fs root with
          | error e => rfl
          | ok s => exact ofSource_outcome (Source.start_sound hs)
      _ = _ := by rw [hstart, push_outcome]

end ScriptMatrix
