import Mathlib.Logic.Relation
import ScriptMatrix.Proofs.Document.Unfolding

/-!
# `ScriptMatrix.Proofs.Document.Progress`: how far a reader has come

A reader keeps what it has read and a stack with what it has not. The
meaning of that stack tells how reading ends (`Reader.outcome`). Here it is
told where reading stands: `Reader.InRoot` holds if the draft of a reader,
with the rest of the included documents and nothing more of the root
document, is what the lines of the root document come to that have been
read. Every step keeps it (`InRoot.step`), and so does every run of steps
(`InRoot.run`).

For that the meaning is asked of a stack whose root document is cut short.
`step_more_resume` allows it: a step reads a line of one document and may
put another on top, and what it does depends on the documents below only
through the files they belong to.
-/

set_option autoImplicit false

namespace ScriptMatrix

open Relation (ReflTransGen)

/-! ### Steps on stacks of the same files -/

namespace Source

/-- What is put on top of a stack goes on top of every stack of the same files: `push` asks
of the open documents only which files they belong to. -/
theorem push_onto {fs : Files} {s s' : Source} {path : Path} {file : Nat}
    (h : push fs s path file = .ok s') :
    ∃ f : Frame, s' = { s with frames := f :: s.frames } ∧
      ∀ frames : List Frame, frames.map (·.file) = s.frames.map (·.file) →
        push fs { s with frames := frames } path file
          = .ok { s with frames := f :: frames } := by
  -- Whether a file is open is asked of the files alone.
  have hany : ∀ frames : List Frame, frames.any (·.file == file)
      = (frames.map (·.file)).any (· == file) := fun frames => by rw [List.any_map]; rfl
  unfold push at h ⊢
  rw [hany] at h
  split at h
  · cases h
  · rename_i hnew
    cases hc : fs.content file with
    | bytes c =>
      rw [hc] at h
      cases h
      exact ⟨_, rfl, fun frames hfiles => by rw [if_neg (by rwa [hany, hfiles])]⟩
    | directory =>
      rw [hc] at h
      cases h
      exact ⟨_, rfl, fun frames hfiles => by rw [if_neg (by rwa [hany, hfiles])]⟩
    | closed fault =>
      rw [hc] at h
      cases h

end Source

namespace Reader

/-- A line may put documents on top of those that are open. It does the same to every stack
of the same files, whatever is left to read of them. -/
theorem take_onto {fs : Files} {r r' : Reader} {line : SourceLine}
    (h : r.take fs line = .ok r') :
    ∃ new : List Frame, r'.source = { r.source with frames := new ++ r.source.frames } ∧
      ∀ frames : List Frame, frames.map (·.file) = r.source.frames.map (·.file) →
        take fs { r with source := { r.source with frames := frames } } line
          = .ok { r' with source := { r.source with frames := new ++ frames } } := by
  -- Most lines put nothing on top; an include puts the document that it has found.
  rcases take_cases h with ⟨hsource, hsame⟩ | ⟨p, hblock, hclassify, hinclude, hr'⟩
  · exact ⟨[], hsource, fun frames _ => hsame _⟩
  · rw [Source.include?_eq] at hinclude
    split at hinclude
    · rename_i path file hfind
      obtain ⟨f, hpushed, honto⟩ := Source.push_onto hinclude
      refine ⟨[f], hpushed, fun frames hfiles => ?_⟩
      rw [hr']
      simp only [take, takeLine, hblock, hclassify, Source.include?_eq, hfind, honto frames hfiles]
      rfl
    · cases hinclude

/-- A step that goes on reads a line of the first document that has one left, and may put
documents `new` on top of it. They and any stack of the same files come to what the line
comes to, and then the stack. -/
theorem step_more_resume {fs : Files} {r r' : Reader} (h : r.step fs = .more r') :
    ∃ (done : List Frame) (f : Frame) (rest : List Frame) (l u : Bytes) (new : List Frame),
      r.source.frames = done ++ f :: rest ∧ (∀ g ∈ done, g.unread = .ok []) ∧
      f.lines = l :: linesOf u ∧ r'.source = ⟨r.source.rootDir, new ++ f.behind u :: rest⟩ ∧
      ∀ frames : List Frame, frames.map (·.file) = (f :: rest).map (·.file) →
        resume fs r.source.rootDir (new ++ frames) r'.draft
          = expandLine fs r.source.rootDir (frames.map (·.file)) ⟨f.path, f.line + 1⟩ l r.draft
              >>= resume fs r.source.rootDir frames := by
  obtain ⟨done, f, rest, l, u, hframes, hdone, hf, htake⟩ := step_more h
  obtain ⟨new, hsource, honto⟩ := take_onto htake
  refine ⟨done, f, rest, l, u, new, hframes, hdone, hf, hsource, fun frames hfiles => ?_⟩
  -- `take_resume` is about the reader before the line; with `frames` for its stack it
  -- speaks of the other one.
  have hresume := take_resume fs { r with source := ⟨r.source.rootDir, frames⟩ }
    ⟨l, ⟨f.path, f.line + 1⟩⟩
  rw [honto frames hfiles] at hresume
  exact hresume

end Reader

/-! ### The lines of the root document -/

/-- A document with nothing left to read. It stands for the root document where only what is
above it is read on. -/
def Frame.closed (f : Frame) : Frame := { f with unread := .ok [] }

/-- A reader is in its root document `f`, with the documents `above` on top
of it. What it has read, with what is left of these, is what the lines of
the root document come to that have been read. -/
structure Reader.InRoot (fs : Files) (root : Path) (rootFile : Nat) (c : Bytes) (r : Reader)
    (above : List Frame) (f : Frame) : Prop where
  source : r.source = ⟨Source.directoryOf root, above ++ [f]⟩
  path : f.path = root
  file : f.file = rootFile
  lines : f.lines = (linesOf c).drop f.line
  draft : resume fs (Source.directoryOf root) (above ++ [f.closed]) r.draft
    = expandLines fs (Source.directoryOf root) [rootFile] root 0 ((linesOf c).take f.line) .blank

namespace Reader.InRoot

section
variable {fs : Files} {root : Path} {rootFile : Nat} {c : Bytes} {r r' : Reader}
  {above : List Frame} {f : Frame}

/-- A reader starts in its root document, of which nothing has been read. -/
theorem start {s : Source} (hroot : fs.resolve root = some rootFile)
    (hc : fs.content rootFile = .bytes c) (hstart : Source.start fs root = .ok s) :
    InRoot fs root rootFile c ⟨s, .empty, none⟩ [] ⟨root, rootFile, .ok c, 0⟩ := by
  have hs : s = ⟨Source.directoryOf root, [⟨root, rootFile, .ok c, 0⟩]⟩ := by
    simp only [Source.start, hroot, Source.push, List.any_nil, hc] at hstart
    cases hstart
    rfl
  refine ⟨hs, rfl, rfl, rfl, ?_⟩
  -- No line has been read, and the document is the only one of the stack.
  rw [List.take_zero, expandLines]
  exact resume_eq_ok fs _ (List.forall_mem_singleton.mpr rfl) _

/-- When the included documents have been read, the draft is what the lines of the root
document come to. Closed documents add nothing to the left side of `InRoot.draft`. -/
theorem draft_eq (h : r.InRoot fs root rootFile c above f)
    (hdone : ∀ g ∈ above, g.unread = .ok []) :
    expandLines fs (Source.directoryOf root) [rootFile] root 0 ((linesOf c).take f.line) .blank
      = .ok r.draft := by
  rw [← h.draft]
  exact resume_eq_ok fs _
    (List.forall_mem_append.mpr ⟨hdone, List.forall_mem_singleton.mpr rfl⟩) _

/-- A step keeps a reader in its root document. The line it reads belongs to that document,
or to one that it includes and that is still open above it. -/
theorem step (h : r.InRoot fs root rootFile c above f) (hstep : r.step fs = .more r') :
    ∃ above' f', r'.InRoot fs root rootFile c above' f' := by
  obtain ⟨done, g, rest, l, u, new, hframes, hdone, hg, hsource, honto⟩ := step_more_resume hstep
  rw [h.source] at hframes hsource honto
  dsimp only at hframes hsource honto
  -- The root document is the last of the stack, so it is `f` itself if nothing is left
  -- behind the document that is read.
  rcases List.eq_nil_or_concat rest with rfl | ⟨rest, last, rfl⟩
  · -- All included documents have been read, and the line is one of the root document.
    obtain ⟨rfl, hlast⟩ := List.append_inj' hframes rfl
    cases hlast
    obtain ⟨htake, hdrop, hlt⟩ := drop_eq_cons (h.lines.symm.trans hg)
    have hcount : ((linesOf c).take f.line).length = f.line := List.length_take_of_le hlt.le
    have hclosed : resume fs (Source.directoryOf root) [(f.behind u).closed] = Except.ok :=
      funext (resume_eq_ok fs _ (List.forall_mem_singleton.mpr rfl))
    refine ⟨new, f.behind u, hsource, h.path, h.file, hdrop.symm, ?_⟩
    calc resume fs (Source.directoryOf root) (new ++ [(f.behind u).closed]) r'.draft
        = expandLine fs (Source.directoryOf root) [rootFile] ⟨root, f.line + 1⟩ l r.draft := by
          rw [honto [(f.behind u).closed] rfl, hclosed, ← h.path, ← h.file]
          exact bind_pure _
      _ = expandLines fs (Source.directoryOf root) [rootFile] root f.line [l] r.draft := by
          rw [expandLines_cons]
          exact (bind_pure _).symm.trans (congrArg _ (funext fun d => by rw [expandLines]; rfl))
      _ = expandLines fs (Source.directoryOf root) [rootFile] root 0
            ((linesOf c).take (f.line + 1)) .blank := by
          rw [htake, expandLines_append, h.draft_eq hdone, hcount, Nat.zero_add]
          rfl
  · -- The line is one of an included document, and none of the root document is read.
    rw [List.concat_eq_append, ← List.cons_append, ← List.append_assoc] at hframes
    obtain ⟨rfl, hlast⟩ := List.append_inj' hframes rfl
    cases hlast
    rw [List.concat_eq_append] at hsource honto
    refine ⟨new ++ g.behind u :: rest, f, ?_, h.path, h.file, h.lines, ?_⟩
    · rw [hsource, List.append_assoc, List.cons_append]
    · calc resume fs (Source.directoryOf root) (new ++ g.behind u :: rest ++ [f.closed]) r'.draft
          = expandLine fs (Source.directoryOf root) ((g :: (rest ++ [f.closed])).map (·.file))
                ⟨g.path, g.line + 1⟩ l r.draft
              >>= resume fs (Source.directoryOf root) (g.behind u :: (rest ++ [f.closed])) := by
            rw [List.append_assoc, List.cons_append, honto _ (by simp [Frame.closed, Frame.behind])]
            rfl
        _ = resume fs (Source.directoryOf root) (done ++ g :: rest ++ [f.closed]) r.draft := by
            rw [List.append_assoc, resume_closed fs _ hdone, List.cons_append,
              resume_line fs _ hg]
            rfl
        _ = _ := h.draft

/-- Every run of a reader keeps it in its root document, one step after the other. -/
theorem run (h : r.InRoot fs root rootFile c above f)
    (hrun : ReflTransGen (fun r r' => Reader.step fs r = .more r') r r') :
    ∃ above' f', r'.InRoot fs root rootFile c above' f' := by
  induction hrun with
  | refl => exact ⟨above, f, h⟩
  | tail _ hstep ih =>
    obtain ⟨above', f', h'⟩ := ih
    exact h'.step hstep

end

end Reader.InRoot

/-- A reader of the document at `root` comes, outside of any block, to a line of that
document itself, behind `before` others, and the line includes `p`. With one document open
behind the line, it is the root document that the line is from. -/
def Files.IncludesAt (fs : Files) (root : Path) (before : Nat) (p : String) : Prop :=
  ∃ (s₀ : Source) (r : Reader) (line : SourceLine) (s : Source),
    Source.start fs root = .ok s₀ ∧
    ReflTransGen (fun r r' => Reader.step fs r = .more r') ⟨s₀, .empty, none⟩ r ∧
    r.block = none ∧ r.source.nextLine = (.ok (some line), s) ∧ s.depth = 1 ∧
    line.place.line = before + 1 ∧ Directive.classify line.bytes = .inclusion p

/-- Where a reader comes to an include of the root document, the lines before it come to a
draft in which it is one. All included documents above have been read by then. -/
theorem Files.IncludesAt.draft {fs : Files} {root : Path} {before : Nat} {p : String}
    (h : fs.IncludesAt root before p) {rootFile : Nat} {c : Bytes}
    (hroot : fs.resolve root = some rootFile) (hc : fs.content rootFile = .bytes c) :
    ∃ d line rest, (linesOf c).drop before = line :: rest ∧ d.inclusion? line = some p ∧
      expandLines fs (Source.directoryOf root) [rootFile] root 0 ((linesOf c).take before) .blank
        = .ok d := by
  obtain ⟨s₀, r, line, s, hstart, hrun, hblock, hnext, hdepth, hbefore, hclassify⟩ := h
  obtain ⟨above, f, hin⟩ := (Reader.InRoot.start hroot hc hstart).run hrun
  have hasked := Source.nextOf_asked r.source.frames
  unfold Source.nextLine at hnext
  generalize Source.nextOf r.source.frames = answer at hasked hnext
  cases hasked with
  | atEnd => cases hnext
  | stuck => cases hnext
  | line done g rest l u hframes hdone hg =>
    cases hnext
    -- One document is open, so it is the root document.
    obtain rfl : rest = [] := List.length_eq_zero_iff.mp (Nat.succ.inj hdepth)
    rw [hin.source] at hframes
    obtain ⟨rfl, hlast⟩ := List.append_inj' hframes rfl
    cases hlast
    obtain rfl : f.line = before := Nat.succ.inj hbefore
    -- The documents above are closed, so the draft is what the lines before come to.
    refine ⟨r.draft, l, linesOf u, hin.lines.symm.trans hg, ?_, hin.draft_eq hdone⟩
    exact Draft.inclusion?_eq_some.mpr ⟨by rw [Reader.draft, hblock, Option.map_none], hclassify⟩

end ScriptMatrix
