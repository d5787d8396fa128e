import Mathlib.Logic.Relation
import ScriptMatrix.Proofs.Document.Queue
import ScriptMatrix.Proofs.Document.Unfolding
import ScriptMatrix.Sandbox.Tree

/-!
# `ScriptMatrix.Proofs.Document.Cycles`: includes end, and cycles are real

A file that is open cannot be included again. So much keeps reading finite
(`Termination`); here is what it means for the includes themselves.

`Expands` follows every include without looking at what is open, and notes
each time which files it is inside of. `expands_of_expandLines`: lines that
are read expand like this, and no file is ever inside itself.

`Files.Includes` is the graph of the include lines. A document fails with a
cycle only if that graph has one which can be reached from its file
(`cycle_of_read`): each file that is being read includes the next one, so an
include of one of them closes a circle.
-/

set_option autoImplicit false

namespace ScriptMatrix

open Relation (ReflTransGen TransGen)

/-! ### What is inside of what -/

/-- Reads the lines of a file, following includes without end if need be.
Of each file that is included, the list tells which files it is inside of,
itself in front; the lines themselves are inside of `inside`. -/
inductive Expands (fs : Files) (rootDir : Path) :
    List Nat → Path → Nat → List Bytes → Draft → List (List Nat) → Draft → Prop
  | done (inside : List Nat) (path : Path) (read : Nat) (d : Draft) :
      Expands fs rootDir inside path read [] d [] d
  | taken {inside : List Nat} {path : Path} {read : Nat} {line : Bytes} {rest : List Bytes}
      {d d₁ d' : Draft} {behind : List (List Nat)} (hline : d.inclusion? line = none)
      (htake : d.takeLine ⟨path, read + 1⟩ line = .ok d₁)
      (hrest : Expands fs rootDir inside path (read + 1) rest d₁ behind d') :
      Expands fs rootDir inside path read (line :: rest) d behind d'
  | included {inside : List Nat} {path : Path} {read : Nat} {line : Bytes} {rest : List Bytes}
      {d d₁ d' : Draft} {within behind : List (List Nat)} {p : String} {path' : Path} {file : Nat}
      {c : Bytes} (hline : d.inclusion? line = some p)
      (hfind : fs.find? rootDir p = some (path', file)) (hc : fs.content file = .bytes c)
      (hwithin : Expands fs rootDir (file :: inside) path' 0 (linesOf c) d within d₁)
      (hrest : Expands fs rootDir inside path (read + 1) rest d₁ behind d') :
      Expands fs rootDir inside path read (line :: rest) d ((file :: inside) :: within ++ behind) d'

/-- Lines that are read expand, and no file is inside itself. The induction keeps `reading`
without repetitions: a file is put on it only where `expandFile` has found it new. -/
theorem expands_of_expandLines {fs : Files} {rootDir : Path} {reading : List Nat}
    {lines : List Bytes} (hreading : reading.Nodup) {path : Path} {read : Nat} {d d' : Draft}
    (h : expandLines fs rootDir reading path read lines d = .ok d') :
    ∃ chains, Expands fs rootDir reading path read lines d chains d' ∧
      ∀ chain ∈ chains, chain.Nodup := by
  induction reading, lines using expandLines_induction fs generalizing path read d d' with
  | nil reading =>
    rw [expandLines] at h
    cases h
    exact ⟨[], .done reading path read d, fun chain hchain => absurd hchain List.not_mem_nil⟩
  | cons reading line rest ihrest ihfile =>
    obtain ⟨d₁, hline, hrest⟩ := expandLines_cons_eq_ok.mp h
    obtain ⟨behind, hbehind, hapart⟩ := ihrest hreading hrest
    rcases expandLine_eq_ok.mp hline with
      ⟨hnone, htake⟩ | ⟨p, path', file, c, hsome, hfind, hnew, hc, hlines⟩
    · exact ⟨behind, .taken hnone htake hbehind, hapart⟩
    · -- The check that `expandFile` makes is all that keeps the files apart.
      have hreading' : (file :: reading).Nodup := List.nodup_cons.mpr ⟨hnew, hreading⟩
      obtain ⟨within, hwithin, hapart'⟩ := ihfile file c hnew hc hreading' hlines
      refine ⟨_, .included hsome hfind hc hwithin hbehind, ?_⟩
      exact List.forall_mem_append.mpr
        ⟨List.forall_mem_cons.mpr ⟨hreading', hapart'⟩, hapart⟩

/-! ### Cycles -/

namespace Files

/-- A file includes another: one of its lines has the form of an include, and there the
other is found. Whether the line stands in a block is left open, so the graph has every edge
that reading can follow. -/
def Includes (fs : Files) (rootDir : Path) (file other : Nat) : Prop :=
  ∃ c line p path, fs.content file = .bytes c ∧ line ∈ linesOf c ∧
    Directive.classify line = .inclusion p ∧ fs.find? rootDir p = some (path, other)

/-- No file that can be reached from a file through includes can be reached from itself.
This speaks of the graph alone, and not of any order of reading. -/
def Acyclic (fs : Files) (rootDir : Path) (file : Nat) : Prop :=
  ∀ other, ReflTransGen (fs.Includes rootDir) file other →
    ¬TransGen (fs.Includes rootDir) other other

end Files

/-- Lines of a file that end in a cycle lead to one. The induction goes from file to file
along the includes, and keeps that every file of `reading` leads to the one with the lines. -/
theorem cycle_of_expandLines {fs : Files} {rootDir : Path} {reading : List Nat}
    {lines : List Bytes} {path q : Path} {read : Nat} {d : Draft}
    (h : expandLines fs rootDir reading path read lines d = .error (.includeCycle q))
    {file : Nat} {c : Bytes} (hc : fs.content file = .bytes c) (hlines : lines ⊆ linesOf c)
    (hreading : ∀ above ∈ reading, ReflTransGen (fs.Includes rootDir) above file) :
    ∃ other, fs.resolve q = some other ∧ ReflTransGen (fs.Includes rootDir) file other ∧
      TransGen (fs.Includes rootDir) other other := by
  induction reading, lines using expandLines_induction fs
    generalizing path read d file c with
  | nil reading =>
    rw [expandLines] at h
    cases h
  | cons reading line rest ihrest ihfile =>
    obtain ⟨hmem, hsub⟩ := List.cons_subset.mp hlines
    rw [expandLines_cons] at h
    -- The first line fails, or it is read and one of the others fails.
    rcases bind_eq_error.mp h with hline | ⟨d₁, -, hrest⟩
    · obtain ⟨p, path', next, hsome, hfind, hcycle⟩ := expandLine_eq_cycle.mp hline
      have hedge : fs.Includes rootDir file next :=
        ⟨c, line, p, path', hc, hmem, (Draft.inclusion?_eq_some.mp hsome).2, hfind⟩
      rcases hcycle with ⟨hopen, rfl⟩ | ⟨hnew, c', hc', hinside⟩
      · -- The file that is included is being read, so it leads back here.
        exact ⟨next, Files.resolve_of_find? hfind, .single hedge,
          TransGen.tail' (hreading next hopen) hedge⟩
      · -- All files that are being read lead here, and from here there is an edge to
        -- `next`.
        have hreading' : ∀ above ∈ next :: reading,
            ReflTransGen (fs.Includes rootDir) above next :=
          List.forall_mem_cons.mpr ⟨.refl, fun above habove => (hreading above habove).tail hedge⟩
        obtain ⟨other, hother, hreach, hcircle⟩ :=
          ihfile next c' hnew hc' hinside hc' (List.Subset.refl _) hreading'
        exact ⟨other, hother, hreach.head hedge, hcircle⟩
    · exact ihrest hrest hc hsub hreading

/-- A document that fails with a cycle leads to one. Besides the files, `Draft.finish` can
fail, but never in this way. -/
theorem cycle_of_read {fs : Files} {root q : Path} {file : Nat}
    (hroot : fs.resolve root = some file)
    (h : Document.read fs root = .error (.includeCycle q)) :
    ∃ other, fs.resolve q = some other ∧
      ReflTransGen (fs.Includes (Source.directoryOf root)) file other ∧
      TransGen (fs.Includes (Source.directoryOf root)) other other := by
  have hfile := read_eq_expandFile hroot
  rw [h] at hfile
  rcases bind_eq_error.mp hfile.symm with hexpand | ⟨last, -, hlast⟩
  · rcases expandFile_eq_cycle.mp hexpand with ⟨hnil, -⟩ | ⟨-, c, hc, hlines⟩
    · exact absurd hnil List.not_mem_nil
    · exact cycle_of_expandLines hlines hc (List.Subset.refl _)
        (List.forall_mem_singleton.mpr .refl)
  · exact absurd hlast (last.finish_ne_cycle q)

/-! ### All documents -/

/-- Paths that lead to one place in a tree name one file, however they are spelled.
`Tree.files` looks at nothing of a path but where `walk` ends. -/
theorem Sandbox.Tree.resolve_eq_of_walk {t : Sandbox.Tree} {p q : Path}
    (h : t.walk p = t.walk q) : t.files.resolve p = t.files.resolve q := by
  simp only [Sandbox.Tree.files, h]

/-- The documents that are open in a tree are at different places, since at one place there
is one file. -/
theorem Source.Sound.walk_ne {t : Sandbox.Tree} {s : Source} (h : s.Sound t.files) :
    s.frames.Pairwise fun f g => t.walk f.path ≠ t.walk g.path := by
  refine (List.pairwise_map.mp h.distinct).imp_of_mem fun {f g} hf hg hne hwalk => hne ?_
  -- One place is one file, and the open files are different.
  have hresolve := Sandbox.Tree.resolve_eq_of_walk hwalk
  rw [(h.follows f hf).named, (h.follows g hg).named] at hresolve
  exact Option.some.inj hresolve

/-- **Includes come to an end, and cycles are real.** Whatever calls a
source has had, its open documents are different files: no two of their
paths, as they are spelled, name one file or lead to one place of a tree. So
there are never more of them than files, and reading the document from
there ends. A document that is read expands so that no file is inside
itself. And where the graph of the includes has no cycle that can be reached
from the root document, reading never fails with one. -/
theorem expansion_ends (fs : Files) (root : Path) :
    (∀ (s₀ : Source) (calls : List Source.Call), Source.start fs root = .ok s₀ →
      let s := (s₀.run fs calls).2
      (s.frames.map (·.file)).Nodup ∧ (∀ f ∈ s.frames, fs.resolve f.path = some f.file) ∧
      (∀ t : Sandbox.Tree, fs = t.files →
        s.frames.Pairwise fun f g => t.walk f.path ≠ t.walk g.path) ∧
      s.depth ≤ fs.contents.length ∧
      ∃ n x, Reader.loop fs n ⟨s, .empty, none⟩ = some x ∧ Document.ofSource fs s = x) ∧
    (∀ d, Document.read fs root = .ok d →
      ∃ file c chains last, fs.resolve root = some file ∧ fs.content file = .bytes c ∧
        Expands fs (Source.directoryOf root) [file] root 0 (linesOf c) .blank chains last ∧
        last.finish = .ok d.declared ∧ ∀ chain ∈ chains, chain.Nodup) ∧
    (∀ file, fs.resolve root = some file → fs.Acyclic (Source.directoryOf root) file →
      ∀ q, Document.read fs root ≠ .error (.includeCycle q)) := by
  refine ⟨fun s₀ calls hstart => ?_, fun d hread => ?_, fun file hroot hacyclic q hread => ?_⟩
  · have hsound := (Source.start_sound hstart).run calls
    refine ⟨hsound.distinct, fun f hf => (hsound.follows f hf).named, ?_, hsound.depth_le, ?_⟩
    · rintro t rfl
      exact hsound.walk_ne
    · exact ⟨_, Document.ofSource_eq hsound⟩
  · obtain ⟨file, c, last, hroot, hc, hlines, hlast⟩ := expandLines_of_read hread
    obtain ⟨chains, hexpands, hapart⟩ := expands_of_expandLines (List.nodup_singleton file) hlines
    exact ⟨file, c, chains, last, hroot, hc, hexpands, hlast, hapart⟩
  · obtain ⟨other, -, hreach, hcircle⟩ := cycle_of_read hroot hread
    exact hacyclic other hreach hcircle

/-- `expansion_ends` where one file is included twice in sequence, and is
refused under a second spelling while it is open. -/
theorem expansion_ends_spellings :
    let t : Sandbox.Tree := ⟨[(["d"], .directory), (["a"], .file (Text.encode "x\n")),
      (["root"], .file (Text.encode "#include d/../a\n#include ./a\n"))], []⟩
    let fs := t.files
    let s₀ : Source :=
      ⟨⟨"."⟩, [⟨⟨"root"⟩, 2, .ok (Text.encode "#include d/../a\n#include ./a\n"), 0⟩]⟩
    let calls : List Source.Call := [.inclusion "d/../a", .inclusion "./a"]
    let s := (s₀.run fs calls).2
    let d : Document := ⟨.empty, .empty, [Text.encode "x", Text.encode "x"]⟩
    Source.start fs ⟨"root"⟩ = .ok s₀ ∧
      (s₀.run fs calls).1 = [.included, .failed (.includeCycle ⟨"./a"⟩)] ∧
      s.frames.Pairwise (fun f g => t.walk f.path ≠ t.walk g.path) ∧
      s.depth ≤ fs.contents.length ∧ (∃ n x, Reader.loop fs n ⟨s, .empty, none⟩ = some x) ∧
      Document.read fs ⟨"root"⟩ = .ok d ∧
      (∃ file c chains last, fs.resolve ⟨"root"⟩ = some file ∧ fs.content file = .bytes c ∧
        Expands fs ⟨"."⟩ [file] ⟨"root"⟩ 0 (linesOf c) .blank chains last ∧
        last.finish = .ok d.declared ∧ ∀ chain ∈ chains, chain.Nodup) ∧
      fs.resolve ⟨"root"⟩ = some 2 ∧ fs.Acyclic ⟨"."⟩ 2 ∧
      Document.read fs ⟨"root"⟩ ≠ .error (.includeCycle ⟨"./a"⟩) := by
  intro t fs s₀ calls s d
  have hdir : Source.directoryOf ⟨"root"⟩ = ⟨"."⟩ := by decide +kernel
  have hstart : Source.start fs ⟨"root"⟩ = .ok s₀ := by
    have hroot : fs.resolve ⟨"root"⟩ = some 2 := by decide +kernel
    rw [Source.start, hroot, hdir]
    rfl
  have hread : Document.read fs ⟨"root"⟩ = .ok d := by decide +kernel
  -- The only file that includes another is the root document.
  have hedge : ∀ x y, fs.Includes ⟨"."⟩ x y → x = 2 ∧ y = 1 := by
    rintro x y ⟨c, line, p, path, hc, hline, hclassify, hfind⟩
    match x with
    | 0 => cases hc
    | 1 =>
      cases hc
      have hlines : linesOf (Text.encode "x\n") = [Text.encode "x"] := by decide +kernel
      rw [hlines, List.mem_singleton] at hline
      have htext : Directive.classify (Text.encode "x") = .text := by decide +kernel
      rw [hline, htext] at hclassify
      cases hclassify
    | 2 =>
      cases hc
      have hlines : linesOf (Text.encode "#include d/../a\n#include ./a\n")
          = [Text.encode "#include d/../a", Text.encode "#include ./a"] := by decide +kernel
      rw [hlines, List.mem_pair] at hline
      have hup : Directive.classify (Text.encode "#include d/../a") = .inclusion "d/../a" := by
        decide +kernel
      have hhere : Directive.classify (Text.encode "#include ./a") = .inclusion "./a" := by
        decide +kernel
      have hfound : fs.find? ⟨"."⟩ "d/../a" = some (⟨"d/../a"⟩, 1) ∧
          fs.find? ⟨"."⟩ "./a" = some (⟨"./a"⟩, 1) := by decide +kernel
      rcases hline with rfl | rfl
      · rw [hup] at hclassify
        cases hclassify
        rw [hfound.1] at hfind
        cases hfind
        exact ⟨rfl, rfl⟩
      · rw [hhere] at hclassify
        cases hclassify
        rw [hfound.2] at hfind
        cases hfind
        exact ⟨rfl, rfl⟩
    | 3 => cases hc
    | n + 4 => cases hc
  -- Every edge goes from the root document to the other file, so no two follow each other.
  have hacyclic : fs.Acyclic ⟨"."⟩ 2 := by
    intro other _ hcircle
    obtain ⟨next, hfirst, -⟩ := TransGen.head'_iff.mp hcircle
    obtain ⟨before, -, hlast⟩ := TransGen.tail'_iff.mp hcircle
    have hsame := (hedge _ _ hfirst).1.symm.trans (hedge _ _ hlast).2
    cases hsame
  obtain ⟨hcalls, hexpands, hcycle⟩ := expansion_ends fs ⟨"root"⟩
  obtain ⟨-, -, hplaces, hdepth, n, x, hloop, -⟩ := hcalls s₀ calls hstart
  refine ⟨hstart, by decide +kernel, hplaces t rfl, hdepth, ⟨n, x, hloop⟩, hread,
    hdir ▸ hexpands d hread, by decide +kernel, hacyclic, ?_⟩
  exact hcycle 2 (by decide +kernel) (hdir ▸ hacyclic) ⟨"./a"⟩

end ScriptMatrix
