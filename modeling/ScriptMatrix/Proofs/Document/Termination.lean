import Mathlib.Data.List.Fold
import Mathlib.Data.List.MinMax
import Mathlib.Tactic.Ring
import ScriptMatrix.Document
import ScriptMatrix.Proofs.Document.Stack

/-!
# `ScriptMatrix.Proofs.Document.Termination`: reading comes to an end

A line may include a file, and a file may be included many times, so the
number of lines that are read is not the number of lines there are. It is
bounded all the same. Say that no file has more than `lines` lines. A line
that is read while `free` files are not open costs at most
`lineWeight lines free` steps, whatever it includes, and the unread lines
of a stack together cost at most `stackCost`.

What a step can be is said once, by `step_stepped`. Every step that goes on
makes the stack cheaper (`step_more_cost`), and a stack never costs more
than the steps that reading is given (`stackCost_lt_lineBound`). So the loop
does not stop short, and reading gives what it gives: `Document.ofSource_eq`.
-/

set_option autoImplicit false

namespace ScriptMatrix

/-- A number of lines that no file exceeds. A file may end in a line without a newline,
hence the one more. -/
def Files.maxLines (fs : Files) : Nat := (fs.contents.map Files.newlines).foldl max 0 + 1

/-- A line costs one step and, in case it includes a file, what the lines of that file cost
while it is open. There `free` is one less, since no file is open twice. -/
def lineWeight (lines : Nat) : Nat → Nat
  | 0 => 1
  | free + 1 => lines * lineWeight lines free + 1

/-- What the unread lines of a stack cost, each while the files of the
documents below it are open. -/
def stackCost (fs : Files) : List Frame → Nat
  | [] => 0
  | f :: rest =>
    f.lines.length * lineWeight fs.maxLines (fs.contents.length - (rest.length + 1))
      + stackCost fs rest

/-! ### The size of files -/

/-- No file has more lines than `maxLines`, which counts newlines as `Reader.lineBound`
does. -/
theorem Files.length_linesOf_le {fs : Files} {file : Nat} {c : Bytes}
    (hc : fs.content file = .bytes c) : (linesOf c).length ≤ fs.maxLines := by
  have hmem : Content.bytes c ∈ fs.contents := by
    have hlt : file < fs.contents.length := lt_length_of_content fun fault => by simp [hc]
    rw [content, List.getD_eq_getElem?_getD, List.getElem?_eq_getElem hlt, Option.getD_some] at hc
    exact hc ▸ List.getElem_mem hlt
  -- The file is one of those that the maximum is over.
  have hnewlines : c.count newlineByte ≤ (fs.contents.map newlines).foldl max 0 := by
    rw [List.foldl_eq_foldr]
    exact List.le_max_of_le' 0 (List.mem_map_of_mem hmem) (Nat.le_refl _)
  have hlines := ScriptMatrix.length_linesOf_le c
  rw [maxLines]
  omega

/-- No document has more lines left than a file has. A directory has none. -/
theorem Frame.Rest.length_lines_le {fs : Files} {f : Frame} (h : f.Rest fs) :
    f.lines.length ≤ fs.maxLines := by
  cases h with
  | text c u hc hu hlines =>
    have hle := Files.length_linesOf_le hc
    rw [Frame.lines_of_ok hu, hlines, List.length_drop]
    omega
  | directory hc hu =>
    rw [Frame.lines_of_error hu]
    exact Nat.zero_le _

/-- A line costs at least the step that reads it. So a step that includes nothing makes the
stack cheaper as well. -/
theorem lineWeight_pos (lines free : Nat) : 0 < lineWeight lines free := by
  cases free with
  | zero => exact Nat.one_pos
  | succ free => exact Nat.succ_pos _

/-- The weight of a line in closed form, from above. The base leaves room for the step of
the line itself, which the recursion adds at every depth. -/
theorem lineWeight_le (lines free : Nat) : lineWeight lines free ≤ (lines + 2) ^ free := by
  induction free with
  | zero => exact Nat.le_refl _
  | succ free ih =>
    have hpos : 0 < (lines + 2) ^ free := Nat.pow_pos (by omega)
    calc lines * lineWeight lines free + 1
        ≤ lines * (lines + 2) ^ free + 1 := Nat.succ_le_succ (Nat.mul_le_mul_left lines ih)
      _ ≤ lines * (lines + 2) ^ free + 2 * (lines + 2) ^ free := by omega
      _ = (lines + 2) ^ (free + 1) := by ring

/-- What a stack costs in closed form, from above. The power on the left is the room that is
left for files that are not open; the induction needs it, as each document in front is paid
from the room below it. -/
theorem stackCost_add_le (fs : Files) (frames : List Frame)
    (hlines : ∀ f ∈ frames, f.lines.length ≤ fs.maxLines)
    (hdepth : frames.length ≤ fs.contents.length) :
    stackCost fs frames + (fs.maxLines + 2) ^ (fs.contents.length - frames.length)
      ≤ (fs.maxLines + 2) ^ fs.contents.length := by
  induction frames with
  | nil => simp [stackCost]
  | cons f rest ih =>
    -- The document in front takes one file from the room below it. What its
    -- lines cost fits into what the room loses by that.
    obtain ⟨hf, hrest⟩ := List.forall_mem_cons.mp hlines
    rw [List.length_cons] at hdepth
    have hbelow := ih hrest (by omega)
    obtain ⟨free, hfree⟩ : ∃ free, fs.contents.length - rest.length = free + 1 :=
      ⟨fs.contents.length - rest.length - 1, by omega⟩
    have hfree' : fs.contents.length - (rest.length + 1) = free := by omega
    rw [hfree] at hbelow
    rw [stackCost, List.length_cons, hfree']
    have hfront : f.lines.length * lineWeight fs.maxLines free
        ≤ fs.maxLines * (fs.maxLines + 2) ^ free := Nat.mul_le_mul hf (lineWeight_le _ _)
    calc f.lines.length * lineWeight fs.maxLines free + stackCost fs rest
          + (fs.maxLines + 2) ^ free
        ≤ fs.maxLines * (fs.maxLines + 2) ^ free + stackCost fs rest
          + 2 * (fs.maxLines + 2) ^ free := by omega
      _ = stackCost fs rest + (fs.maxLines + 2) ^ (free + 1) := by ring
      _ ≤ (fs.maxLines + 2) ^ fs.contents.length := hbelow

/-- The stack of a sound source costs less than the steps that a loop is given. A sound
stack is no deeper than there are files, and that is where `Source.Sound` comes in. -/
theorem stackCost_lt_lineBound {fs : Files} {s : Source} (h : s.Sound fs) :
    stackCost fs s.frames < fs.lineBound := by
  have hcost := stackCost_add_le fs s.frames
    (fun f hf => (h.follows f hf).rest.length_lines_le) h.depth_le
  have hpos : 0 < (fs.maxLines + 2) ^ (fs.contents.length - s.frames.length) :=
    Nat.pow_pos (by omega)
  calc stackCost fs s.frames
      < (fs.maxLines + 2) ^ fs.contents.length := by omega
    _ ≤ (fs.maxLines + 2) ^ (fs.contents.length + 1) :=
        Nat.pow_le_pow_right (by omega) (Nat.le_succ _)
    _ = fs.lineBound := rfl

/-! ### The cost of a step -/

/-- The documents `done` that are closed on the way to a line cost something or nothing, but
the stack without them is never dearer. `step_more_cost` needs no more of them. -/
theorem stackCost_le_append (fs : Files) (done frames : List Frame) :
    stackCost fs frames ≤ stackCost fs (done ++ frames) := by
  induction done with
  | nil => exact Nat.le_refl _
  | cons f done ih =>
    rw [List.cons_append, stackCost]
    omega

/-- Reading a line of the document in front lowers the cost of the stack by the weight of a
line at that depth. An equation, because this weight then pays for a file that the line
includes. -/
theorem stackCost_behind (fs : Files) {f : Frame} {l u : Bytes} (hf : f.lines = l :: linesOf u)
    (rest : List Frame) :
    stackCost fs (f.behind u :: rest)
        + lineWeight fs.maxLines (fs.contents.length - (rest.length + 1))
      = stackCost fs (f :: rest) := by
  rw [stackCost, stackCost, hf, Frame.lines_behind, List.length_cons]
  ring

/-- An include raises the cost of a stack by less than the weight of the line that asked for
it: the new document has at most `maxLines` lines, and each weighs less by one open file. -/
theorem stackCost_include? {fs : Files} {s s' : Source} {p : String} (h : s.Sound fs)
    (hinclude : s.include? fs p = .ok s') :
    stackCost fs s'.frames
      < stackCost fs s.frames + lineWeight fs.maxLines (fs.contents.length - s.depth) := by
  have hdepth := (h.include? hinclude).depth_le
  rw [Source.include?_eq] at hinclude
  split at hinclude
  · obtain ⟨f, rfl, -, -, -, -, hrest⟩ := Source.push_ok hinclude
    have hlines := hrest.length_lines_le
    -- With the new document the stack is still sound, so there was a file to spare.
    obtain ⟨free, hfree⟩ : ∃ free, fs.contents.length - s.depth = free + 1 := by
      refine ⟨fs.contents.length - (s.depth + 1), ?_⟩
      rw [Source.depth, List.length_cons] at hdepth
      rw [Source.depth]
      omega
    have hfree' : fs.contents.length - (s.frames.length + 1) = free := by
      rw [Source.depth] at hfree
      omega
    have hmul : f.lines.length * lineWeight fs.maxLines free
        ≤ fs.maxLines * lineWeight fs.maxLines free := Nat.mul_le_mul_right _ hlines
    rw [stackCost, hfree, hfree', lineWeight]
    omega
  · cases hinclude

namespace Reader

/-- Takes in a line, inside a block or outside. This is what `step` does with a line that it
has been given. -/
def take (fs : Files) (r : Reader) (line : SourceLine) : Except Error Reader :=
  match r.block with
  | some b => r.takeBlockLine b line
  | none => r.takeLine fs line

/-- What a line does to the source of a reader. Most lines leave it, and then do the same
with any other source; an include changes the source and nothing else. `Paste` needs both
halves, the cost of a step only which of them it is. -/
theorem take_cases {fs : Files} {r r' : Reader} {line : SourceLine}
    (h : r.take fs line = .ok r') :
    (r'.source = r.source ∧
      ∀ s : Source, take fs { r with source := s } line = .ok { r' with source := s }) ∨
    ∃ p, r.block = none ∧ Directive.classify line.bytes = .inclusion p ∧
      r.source.include? fs p = .ok r'.source ∧ r' = { r with source := r'.source } := by
  obtain ⟨source, document, block⟩ := r
  -- Inside a block the source is not looked at, so any other will do as well.
  cases block with
  | some b =>
    simp only [take, takeBlockLine] at h ⊢
    by_cases hend : (line.bytes == blockEnd) = true
    · rw [if_pos hend] at h
      cases hadd : document.addBlock b.kind b.header (joinLines b.lines) with
      | error e =>
        rw [hadd] at h
        cases h
      | ok d =>
        rw [hadd] at h
        cases h
        exact .inl ⟨rfl, fun s => by rw [if_pos hend]; rfl⟩
    · rw [if_neg hend] at h
      cases h
      exact .inl ⟨rfl, fun s => by rw [if_neg hend]⟩
  | none =>
    simp only [take, takeLine] at h ⊢
    cases hclassify : Directive.classify line.bytes with
    | block kind =>
      rw [hclassify] at h
      cases h
      exact .inl ⟨rfl, fun s => rfl⟩
    | text =>
      rw [hclassify] at h
      cases h
      exact .inl ⟨rfl, fun s => rfl⟩
    | inclusion p =>
      simp only [hclassify] at h
      -- The one line that needs the source, and changes nothing but it.
      cases hinclude : source.include? fs p with
      | error e =>
        rw [hinclude] at h
        cases h
      | ok s' =>
        rw [hinclude] at h
        cases h
        exact .inr ⟨p, trivial, rfl, hinclude, rfl⟩

/-- Taking in a line goes on exactly if there was no error. -/
theorem ofExcept_eq_more {x : Except Error Reader} {r : Reader} :
    Progress.ofExcept x = .more r ↔ x = .ok r := by
  cases x <;> simp [Progress.ofExcept]

/-- Everything that a step can be. All documents are at their end, with no
block or a block open; or the first that is not at its end cannot be read;
or it has a line, which is taken in. -/
inductive Stepped (fs : Files) (r : Reader) : Progress → Prop where
  | finished (hall : ∀ f ∈ r.source.frames, f.unread = .ok []) (hblock : r.block = none) :
      Stepped fs r (.finished r.document)
  | unterminated (b : OpenBlock) (hall : ∀ f ∈ r.source.frames, f.unread = .ok [])
      (hblock : r.block = some b) :
      Stepped fs r (.failed (.unterminatedBlock b.kind.name b.header))
  | stuck (done : List Frame) (f : Frame) (rest : List Frame) (fault : Fault)
      (hframes : r.source.frames = done ++ f :: rest) (hdone : ∀ g ∈ done, g.unread = .ok [])
      (hf : f.unread = .error fault) : Stepped fs r (.failed (.unreadable f.path fault))
  | line (done : List Frame) (f : Frame) (rest : List Frame) (l u : Bytes)
      (hframes : r.source.frames = done ++ f :: rest) (hdone : ∀ g ∈ done, g.unread = .ok [])
      (hf : f.lines = l :: linesOf u) :
      Stepped fs r (.ofExcept (take fs
        { r with source := ⟨r.source.rootDir, f.behind u :: rest⟩ } ⟨l, ⟨f.path, f.line + 1⟩⟩))

/-- A step is one of the four that `Stepped` lists. All later facts about steps come from
here and from `take_cases`. -/
theorem step_stepped (fs : Files) (r : Reader) : Stepped fs r (r.step fs) := by
  have hasked := Source.nextOf_asked r.source.frames
  unfold step Source.nextLine
  -- The answer is kept apart from the frames it came from, for the cases of `Asked` to fill
  -- in.
  generalize Source.nextOf r.source.frames = answer at hasked
  cases hasked with
  | atEnd hall =>
    cases hblock : r.block with
    | none => exact .finished hall hblock
    | some b => exact .unterminated b hall hblock
  | stuck done f rest fault hframes hdone hf => exact .stuck done f rest fault hframes hdone hf
  | line done f rest l u hframes hdone hf => exact .line done f rest l u hframes hdone hf

/-- A step that goes on has taken in a line: of the ways that `Stepped` lists, only this one
ends in another reader. -/
theorem step_more {fs : Files} {r r' : Reader} (h : r.step fs = .more r') :
    ∃ (done : List Frame) (f : Frame) (rest : List Frame) (l u : Bytes),
      r.source.frames = done ++ f :: rest ∧ (∀ g ∈ done, g.unread = .ok []) ∧
      f.lines = l :: linesOf u ∧
      take fs { r with source := ⟨r.source.rootDir, f.behind u :: rest⟩ }
        ⟨l, ⟨f.path, f.line + 1⟩⟩ = .ok r' := by
  have hstepped := step_stepped fs r
  generalize r.step fs = progress at h hstepped
  -- The other three ways end the reading.
  cases hstepped with
  | finished => cases h
  | unterminated => cases h
  | stuck => cases h
  | line done f rest l u hframes hdone hf =>
    exact ⟨done, f, rest, l, u, hframes, hdone, hf, ofExcept_eq_more.mp h⟩

/-- A step that goes on keeps the source sound and makes its stack cheaper. This is the step
lemma behind `loop_ends`. -/
theorem step_more_cost {fs : Files} {r r' : Reader} (hs : r.source.Sound fs)
    (h : r.step fs = .more r') :
    r'.source.Sound fs ∧ stackCost fs r'.source.frames < stackCost fs r.source.frames := by
  obtain ⟨done, f, rest, l, u, hframes, -, hf, htake⟩ := step_more h
  have hbehind := stackCost_behind fs hf rest
  have hclosed := stackCost_le_append fs done (f :: rest)
  have hpos := lineWeight_pos fs.maxLines (fs.contents.length - (rest.length + 1))
  have hsound : Source.Sound fs ⟨r.source.rootDir, f.behind u :: rest⟩ :=
    (hs.of_append hframes).behind hf
  rw [hframes]
  rcases take_cases htake with ⟨hsame, -⟩ | ⟨p, -, -, hinclude, -⟩
  · rw [hsame]
    exact ⟨hsound, by show stackCost fs (f.behind u :: rest) < _; omega⟩
  · -- The include costs less than the line weighed that asked for it.
    have hcost : stackCost fs r'.source.frames < stackCost fs (f.behind u :: rest)
        + lineWeight fs.maxLines (fs.contents.length - (rest.length + 1)) :=
      stackCost_include? hsound hinclude
    exact ⟨hsound.include? hinclude, by omega⟩

/-- A loop with more steps than the stack costs gives an answer. The induction is on the
steps it is given, which `step_more_cost` keeps ahead of the cost. -/
theorem loop_ends {fs : Files} {n : Nat} {r : Reader} (hs : r.source.Sound fs)
    (hn : stackCost fs r.source.frames < n) : ∃ x, loop fs n r = some x := by
  induction n generalizing r with
  | zero => omega
  | succ n ih =>
    rw [loop]
    cases hstep : r.step fs with
    | more r' =>
      -- One step is used up, and the cost has gone down by one at least.
      obtain ⟨hs', hcost⟩ := step_more_cost hs hstep
      exact ih hs' (by omega)
    | finished d => exact ⟨_, rfl⟩
    | failed e => exact ⟨_, rfl⟩

end Reader

/-- Reading the document of a sound source gives what the loop gives. The answer that
`Document.ofSource` has for a loop that stops short is never used. -/
theorem Document.ofSource_eq {fs : Files} {s : Source} (h : s.Sound fs) :
    ∃ x, Reader.loop fs (fs.lineBound + 1) ⟨s, .empty, none⟩ = some x ∧
      Document.ofSource fs s = x := by
  have hcost := stackCost_lt_lineBound h
  obtain ⟨x, hx⟩ := Reader.loop_ends (r := ⟨s, .empty, none⟩) (n := fs.lineBound + 1) h
    (by show stackCost fs s.frames < _; omega)
  exact ⟨x, hx, by rw [Document.ofSource, hx, Option.getD_some]⟩

end ScriptMatrix
