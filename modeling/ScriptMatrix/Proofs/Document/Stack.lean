import Mathlib.Data.List.Nodup
import Mathlib.Data.List.Perm.Subperm
import ScriptMatrix.Proofs.Document.Lines

/-!
# `ScriptMatrix.Proofs.Document.Stack`: the stack of open documents

What the calls on a source do to its stack, each said once:

* `nextOf_asked`: asking for a line closes the documents in front that
  have nothing left. It then ends, stops at a document that cannot be
  read, or takes one line off the document it has come to.
* `include?_eq` and `push_ok`: an include is looked for in two places and
  puts one document on top, which was not open before.

`Source.Sound` is what every call keeps: the open documents are different
files, and each stands behind the lines of its file that have been read.
Hence there are never more of them than there are files
(`Source.Sound.depth_le`).
-/

set_option autoImplicit false

namespace ScriptMatrix

namespace Files

/-- Where an include is found: at its path as given, or else at its path from the directory
of the root document. It is the path as it was found that the lines of the document are told
under. -/
def find? (fs : Files) (rootDir : Path) (path : String) : Option (Path × Nat) :=
  match fs.resolve ⟨path⟩ with
  | some file => some (⟨path⟩, file)
  | none => (fs.resolve (rootDir.join path)).map fun file => (rootDir.join path, file)

/-- The path under which an include is found names the file found, in either of the two
places. -/
theorem resolve_of_find? {fs : Files} {rootDir path : Path} {p : String} {file : Nat}
    (h : fs.find? rootDir p = some (path, file)) : fs.resolve path = some file := by
  unfold find? at h
  split at h
  · rename_i given hgiven
    cases h
    exact hgiven
  · obtain ⟨found, hfound, heq⟩ := Option.map_eq_some_iff.mp h
    cases heq
    exact hfound

/-- A file with a content that can be opened is one of the files. A number past the end
stands for a file that is not there. -/
theorem lt_length_of_content {fs : Files} {file : Nat}
    (h : ∀ fault, fs.content file ≠ .closed fault) : file < fs.contents.length := by
  by_contra hge
  have hnone : fs.contents[file]? = none := List.getElem?_eq_none (Nat.le_of_not_lt hge)
  refine h .notFound ?_
  rw [content, List.getD_eq_getElem?_getD, hnone, Option.getD_none]

end Files

namespace Frame

/-- The lines of a document that have not been read. There are none where the document
cannot be read. -/
def lines (f : Frame) : List Bytes :=
  match f.unread with
  | .ok c => linesOf c
  | .error _ => []

/-- The lines of a document that have not been read, with their places. -/
def pending (f : Frame) : List SourceLine := numbered f.path f.line f.lines

/-- The document after one more line, with `u` left to read. This is what reading a line
does to a frame, in `Asked` and wherever a line is followed. -/
def behind (f : Frame) (u : Bytes) : Frame := { f with unread := .ok u, line := f.line + 1 }

/-- What is left to read of a document is what its file holds behind the lines that have
been read. A directory can be opened, but gives nothing. -/
inductive Rest (fs : Files) (f : Frame) : Prop where
  | text (c u : Bytes) (hc : fs.content f.file = .bytes c) (hu : f.unread = .ok u)
      (hlines : linesOf u = (linesOf c).drop f.line)
  | directory (hc : fs.content f.file = .directory) (hu : f.unread = .error .isDirectory)

/-- An open document belongs to the file that its path names and stands
behind the lines that have been read. -/
structure Follows (fs : Files) (f : Frame) : Prop where
  named : fs.resolve f.path = some f.file
  rest : f.Rest fs

theorem lines_of_ok {f : Frame} {u : Bytes} (hu : f.unread = .ok u) : f.lines = linesOf u := by
  simp only [lines, hu]

theorem lines_of_error {f : Frame} {fault : Fault} (hu : f.unread = .error fault) :
    f.lines = [] := by
  simp only [lines, hu]

@[simp] theorem lines_behind (f : Frame) (u : Bytes) : (f.behind u).lines = linesOf u := rfl

/-- The file of an open document is one of the files, so that distinct open files can be
counted. -/
theorem Follows.file_lt {fs : Files} {f : Frame} (h : f.Follows fs) :
    f.file < fs.contents.length := by
  refine Files.lt_length_of_content fun fault => ?_
  cases h.rest with
  | text c u hc => simp [hc]
  | directory hc => simp [hc]

/-- A document keeps following its file when its first unread line is taken off. One line
more has been read, and `drop_eq_cons` says that the rest of the file is what is left. -/
theorem Follows.behind {fs : Files} {f : Frame} {l : Bytes} {u : Bytes} (h : f.Follows fs)
    (hl : f.lines = l :: linesOf u) : (f.behind u).Follows fs := by
  refine ⟨h.named, ?_⟩
  -- A directory has no line to take off.
  cases h.rest with
  | text c v hc hv hlines =>
    rw [lines_of_ok hv, hlines] at hl
    refine .text c u hc rfl ?_
    exact (drop_eq_cons hl).2.1.symm
  | directory hc hv =>
    rw [lines_of_error hv] at hl
    exact absurd hl (by simp)

end Frame

namespace Source

/-- The lines that are still to come: those of the document in front first. This list is the
queue that `Served` and the modules behind it speak of. -/
def pending (s : Source) : List SourceLine := s.frames.flatMap Frame.pending

/-- What asking a stack of documents for a line comes to. In each case some documents `done`
in front have nothing left and are closed. Then the stack is empty, its first document
cannot be read, or a line `l` is taken off it. -/
inductive Asked (frames : List Frame) : Except Error (Option SourceLine) × List Frame → Prop where
  | atEnd (hall : ∀ f ∈ frames, f.unread = .ok []) : Asked frames (.ok none, [])
  | stuck (done : List Frame) (f : Frame) (rest : List Frame) (fault : Fault)
      (hframes : frames = done ++ f :: rest) (hdone : ∀ g ∈ done, g.unread = .ok [])
      (hf : f.unread = .error fault) : Asked frames (.error (.unreadable f.path fault), f :: rest)
  | line (done : List Frame) (f : Frame) (rest : List Frame) (l u : Bytes)
      (hframes : frames = done ++ f :: rest) (hdone : ∀ g ∈ done, g.unread = .ok [])
      (hf : f.lines = l :: linesOf u) :
      Asked frames (.ok (some ⟨l, ⟨f.path, f.line + 1⟩⟩), f.behind u :: rest)

/-- A document in front that has nothing left changes nothing: it is closed with the others. -/
theorem Asked.cons {f : Frame} {frames : List Frame}
    {r : Except Error (Option SourceLine) × List Frame} (hf : f.unread = .ok [])
    (h : Asked frames r) : Asked (f :: frames) r := by
  -- It joins the documents that are closed.
  have hclose : ∀ {done : List Frame}, (∀ g ∈ done, g.unread = .ok []) →
      ∀ g ∈ f :: done, g.unread = .ok [] :=
    fun hdone => List.forall_mem_cons.mpr ⟨hf, hdone⟩
  cases h with
  | atEnd hall => exact .atEnd (hclose hall)
  | stuck done g rest fault hframes hdone hg =>
    exact .stuck (f :: done) g rest fault (by rw [hframes]; rfl) (hclose hdone) hg
  | line done g rest l u hframes hdone hg =>
    exact .line (f :: done) g rest l u (by rw [hframes]; rfl) (hclose hdone) hg

/-- Everything that asking for a line can do. The later modules take what they need of
`nextOf` from here, and none of them goes through its recursion again. -/
theorem nextOf_asked (frames : List Frame) : Asked frames (nextOf frames) := by
  induction frames with
  | nil => exact .atEnd (by simp)
  | cons f rest ih =>
    unfold nextOf
    cases hu : f.unread with
    | error fault => exact .stuck [] f rest fault rfl (by simp) hu
    | ok c =>
      cases c with
      | nil =>
        -- A document with nothing left is closed, and the next one is asked.
        exact ih.cons hu
      | cons b bs =>
        refine .line [] f rest (splitLine (b :: bs)).1 (splitLine (b :: bs)).2 rfl (by simp) ?_
        rw [Frame.lines_of_ok hu, linesOf_cons]

/-- An include is found by `find?` and put on top, or it is not found. The two places come
together in one match, which is how the later proofs split it. -/
theorem include?_eq (fs : Files) (s : Source) (p : String) :
    s.include? fs p = match fs.find? s.rootDir p with
      | some (path, file) => push fs s path file
      | none => .error (.resourceNotFound p [⟨p⟩, s.rootDir.join p]) := by
  cases hgiven : fs.resolve ⟨p⟩ with
  | some file => simp only [include?, Files.find?, hgiven]
  | none =>
    cases hbeside : fs.resolve (s.rootDir.join p) with
    | some file => simp only [include?, Files.find?, hgiven, hbeside, Option.map_some]
    | none => simp only [include?, Files.find?, hgiven, hbeside, Option.map_none]

/-- A document that can be opened goes on top. It was not open, none of its lines is read,
and all that its file holds is left to read. -/
theorem push_ok {fs : Files} {s s' : Source} {path : Path} {file : Nat}
    (h : push fs s path file = .ok s') :
    ∃ f : Frame, s' = { s with frames := f :: s.frames } ∧ f.path = path ∧ f.file = file ∧
      f.line = 0 ∧ file ∉ s.frames.map (·.file) ∧ f.Rest fs := by
  unfold push at h
  split at h
  · cases h
  · rename_i hopen
    -- A file that is open is refused, so this one was not.
    have hnew : file ∉ s.frames.map (·.file) := by
      intro hmem
      obtain ⟨g, hg, hfile⟩ := List.mem_map.mp hmem
      exact hopen (List.any_eq_true.mpr ⟨g, hg, by simp [hfile]⟩)
    -- A directory is opened like a text; only reading it fails.
    cases hc : fs.content file with
    | bytes c =>
      rw [hc] at h
      cases h
      exact ⟨_, rfl, rfl, rfl, rfl, hnew, .text c c hc rfl (List.drop_zero ..).symm⟩
    | directory =>
      rw [hc] at h
      cases h
      exact ⟨_, rfl, rfl, rfl, rfl, hnew, .directory hc rfl⟩
    | closed fault =>
      rw [hc] at h
      cases h

/-- The open documents are different files, and each stands where reading has come to in its
file. `start_sound`, `Sound.include?` and `Sound.nextLine` show that it holds of every
source that calls can lead to. -/
structure Sound (fs : Files) (s : Source) : Prop where
  distinct : (s.frames.map (·.file)).Nodup
  follows : ∀ f ∈ s.frames, f.Follows fs

/-- There are never more documents open than there are files, since different documents are
different files. -/
theorem Sound.depth_le {fs : Files} {s : Source} (h : s.Sound fs) :
    s.depth ≤ fs.contents.length := by
  -- Different files, each of them one of those there are.
  have hsub : s.frames.map (·.file) ⊆ List.range fs.contents.length := by
    intro file hfile
    obtain ⟨f, hf, rfl⟩ := List.mem_map.mp hfile
    exact List.mem_range.mpr (h.follows f hf).file_lt
  simpa [depth] using (List.subperm_of_subset h.distinct hsub).length_le

/-- A document put on top keeps a source sound. That it is a new file is what `push` checks,
and `hnamed` is what the check of the path has found. -/
theorem Sound.push {fs : Files} {s s' : Source} {path : Path} {file : Nat} (h : s.Sound fs)
    (hnamed : fs.resolve path = some file) (hpush : Source.push fs s path file = .ok s') :
    s'.Sound fs := by
  obtain ⟨f, rfl, rfl, rfl, -, hnew, hrest⟩ := push_ok hpush
  refine ⟨?_, List.forall_mem_cons.mpr ⟨⟨hnamed, hrest⟩, h.follows⟩⟩
  rw [List.map_cons]
  exact List.nodup_cons.mpr ⟨hnew, h.distinct⟩

/-- The source of a root document is sound: it has one document, put on top of none. -/
theorem start_sound {fs : Files} {root : Path} {s : Source} (h : start fs root = .ok s) :
    s.Sound fs := by
  unfold start at h
  split at h
  · cases h
  · rename_i file hfile
    have hnone : Source.Sound fs ⟨directoryOf root, []⟩ := ⟨List.nodup_nil, by simp⟩
    exact hnone.push hfile h

/-- An include keeps a source sound, whichever of its two places it is found in. -/
theorem Sound.include? {fs : Files} {s s' : Source} {p : String} (h : s.Sound fs)
    (hinclude : s.include? fs p = .ok s') : s'.Sound fs := by
  rw [include?_eq] at hinclude
  split at hinclude
  · rename_i path file hfind
    exact h.push (Files.resolve_of_find? hfind) hinclude
  · cases hinclude

/-- The documents behind some that are closed stay sound, as a part of the stack. -/
theorem Sound.of_append {fs : Files} {s : Source} {done frames : List Frame} (h : s.Sound fs)
    (hframes : s.frames = done ++ frames) : Source.Sound fs { s with frames := frames } := by
  refine ⟨?_, fun f hf => h.follows f (by rw [hframes]; exact List.mem_append_right _ hf)⟩
  have hdistinct := h.distinct
  rw [hframes, List.map_append] at hdistinct
  exact (List.nodup_append.mp hdistinct).2.1

/-- A line that is taken off the document in front keeps a source sound. The files that are
open are the same. -/
theorem Sound.behind {fs : Files} {rootDir : Path} {f : Frame} {rest : List Frame} {l u : Bytes}
    (h : Source.Sound fs ⟨rootDir, f :: rest⟩) (hf : f.lines = l :: linesOf u) :
    Source.Sound fs ⟨rootDir, f.behind u :: rest⟩ := by
  refine ⟨h.distinct, List.forall_mem_cons.mpr ⟨?_, ?_⟩⟩
  · exact (h.follows f List.mem_cons_self).behind hf
  · exact fun g hg => h.follows g (List.mem_cons_of_mem f hg)

/-- Asking for a line keeps a source sound, in all three ways that `Asked` lists. -/
theorem Sound.nextLine {fs : Files} {s : Source} (h : s.Sound fs) : s.nextLine.2.Sound fs := by
  unfold Source.nextLine
  have hasked := nextOf_asked s.frames
  generalize nextOf s.frames = r at hasked
  cases hasked with
  | atEnd => exact ⟨List.nodup_nil, by simp⟩
  | stuck done f rest fault hframes => exact h.of_append hframes
  | line done f rest l u hframes hdone hf =>
    exact (h.of_append hframes).behind hf

end Source

end ScriptMatrix
