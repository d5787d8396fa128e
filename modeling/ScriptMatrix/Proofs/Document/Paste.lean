import ScriptMatrix.Proofs.Document.Progress

/-!
# `ScriptMatrix.Proofs.Document.Paste`: an include stands for a text

`include_is_paste`: a document declares the same if the text of a file
that it includes is written in place of the include.

There are two sides to it. `linesOf_replaceLine` is about the text: the new
root document has the lines of the included file where the line with the
include was. `expandLines_same` is about reading: lines that are read with
some files open are also read with fewer of them open, under another path
and with other numbers. Nothing of that is left in what is declared; only
the place of an open block differs, which errors alone would show
(`Draft.Same`).
-/

set_option autoImplicit false

namespace ScriptMatrix

/-! ### The text -/

/-- A content with a newline behind its last line. An empty content has no last line. -/
def terminated (c : Bytes) : Bytes :=
  if c = [] ∨ c.getLast? = some newlineByte then c else c ++ [newlineByte]

/-- A content with `t` in place of a line and its newline. The line comes behind `before`
others, so `Files.IncludesAt` and this count alike. -/
def replaceLine : Bytes → Nat → Bytes → Bytes
  | c, 0, t => t ++ (splitLine c).2
  | c, before + 1, t => (splitLine c).1 ++ newlineByte :: replaceLine (splitLine c).2 before t

namespace Files

/-- The files after a content has been written to one of them. Paths lead to the same files
as before. -/
def write (fs : Files) (file : Nat) (c : Bytes) : Files :=
  { fs with contents := fs.contents.set file (.bytes c) }

/-- The file that has been written to holds what was written. -/
theorem content_write {fs : Files} {file : Nat} (hfile : file < fs.contents.length) (c : Bytes) :
    (fs.write file c).content file = .bytes c := by
  rw [content, write, List.getD_eq_getElem?_getD, List.getElem?_set_self hfile, Option.getD_some]

/-- All other files hold what they held. `expandLines_same` asks this of the files that are
not open. -/
theorem content_write_of_ne {fs : Files} {file other : Nat} (hne : other ≠ file) (c : Bytes) :
    (fs.write file c).content other = fs.content other := by
  rw [content, content, write, List.getD_eq_getElem?_getD, List.getD_eq_getElem?_getD,
    List.getElem?_set_ne hne.symm]

end Files

/-- The lines of a text that ends in a newline come before those of what is put behind it. -/
theorem linesOf_newline_append (a b : Bytes) :
    linesOf (a ++ newlineByte :: b) = linesOf (a ++ [newlineByte]) ++ linesOf b := by
  induction a with
  | nil => simp [linesOf]
  | cons x a ih =>
    -- A newline ends the first line on both sides, and any other byte goes to it.
    by_cases hx : x = newlineByte
    · simp [linesOf, hx, ih]
    · rw [List.cons_append, List.cons_append, linesOf, linesOf, if_neg hx, if_neg hx, ih]
      -- Where a byte goes to the first line of what is left, there has to be one.
      obtain ⟨y, ys, hy⟩ : ∃ y ys, a ++ [newlineByte] = y :: ys :=
        List.exists_cons_of_ne_nil (by simp)
      rw [hy, linesOf_cons]
      rfl

/-- A newline behind a last line that has none makes no other lines. This is why
`terminated` is harmless. -/
theorem linesOf_concat_newline (a : Bytes) {x : UInt8} (hx : x ≠ newlineByte) :
    linesOf (a ++ [x] ++ [newlineByte]) = linesOf (a ++ [x]) := by
  induction a with
  | nil => simp [linesOf, hx]
  | cons y a ih =>
    rw [List.cons_append, List.cons_append, linesOf, linesOf, ih]

/-- A terminated content keeps its lines, and what is put behind it keeps its own. Without
the newline, the last line of one and the first of the other would run together. -/
theorem linesOf_terminated_append (c b : Bytes) :
    linesOf (terminated c ++ b) = linesOf c ++ linesOf b := by
  unfold terminated
  rcases List.eq_nil_or_concat c with rfl | ⟨a, x, rfl⟩
  · rw [if_pos (.inl rfl), linesOf_nil, List.nil_append, List.nil_append]
  · rw [List.concat_eq_append]
    by_cases hx : x = newlineByte
    · rw [hx, if_pos (.inr List.getLast?_concat), List.append_assoc, List.singleton_append,
        linesOf_newline_append]
    · -- The newline that is put behind it ends the last line, which was there before.
      rw [if_neg (by simp [hx]), List.append_assoc, List.singleton_append,
        linesOf_newline_append, linesOf_concat_newline a hx]

/-- A line with a newline behind it is the first one. -/
theorem linesOf_line_append {l : Bytes} (hl : newlineByte ∉ l) (b : Bytes) :
    linesOf (l ++ newlineByte :: b) = l :: linesOf b := by
  induction l with
  | nil => rw [List.nil_append, linesOf, if_pos rfl]
  | cons x l ih =>
    rw [List.mem_cons, not_or] at hl
    rw [List.cons_append, linesOf, if_neg (Ne.symm hl.1), ih hl.2]

/-- The first line of a content has no newline in it, as `splitLine` ends it before the
first. -/
theorem newline_not_mem_splitLine (c : Bytes) : newlineByte ∉ (splitLine c).1 := by
  intro h
  simpa using List.all_eq_true.mp List.all_takeWhile newlineByte h

/-- With a text in place of one of its lines, a content has the lines of the text there. The
lines before and behind are as they were. -/
theorem linesOf_replaceLine {c : Bytes} {before : Nat} (hbefore : before < (linesOf c).length)
    (t : Bytes) :
    linesOf (replaceLine c before (terminated t))
      = (linesOf c).take before ++ (linesOf t ++ (linesOf c).drop (before + 1)) := by
  induction before generalizing c with
  | zero =>
    cases c with
    | nil => simp at hbefore
    | cons b bs =>
      rw [replaceLine, linesOf_terminated_append, linesOf_cons, List.take_zero, List.nil_append,
        List.drop_succ_cons, List.drop_zero]
  | succ before ih =>
    cases c with
    | nil => simp at hbefore
    | cons b bs =>
      rw [linesOf_cons, List.length_cons] at hbefore
      -- The first line stays in front, and the text comes in one line earlier in the rest.
      rw [replaceLine, linesOf_line_append (newline_not_mem_splitLine _),
        ih (Nat.lt_of_succ_lt_succ hbefore), linesOf_cons, List.take_succ_cons,
        List.drop_succ_cons, List.cons_append]

/-! ### Reading under other paths -/

/-- The same data is declared by a block at another place. The place is only told in errors,
and here there is none. -/
theorem Declared.withBlock_elsewhere {kind : BlockKind} {place : Place} {text : Bytes}
    {before after : Declared} (h : before.withBlock ⟨kind, place, text⟩ = .ok after)
    (place' : Place) : before.withBlock ⟨kind, place', text⟩ = .ok after := by
  unfold Declared.withBlock at h ⊢
  cases kind with
  | params =>
    cases hread : BlockFault.readBytes AxisSet.ofValue text with
    | ok axes => simpa only [hread] using h
    | error fault => simp [hread] at h
  | defaultParams =>
    cases hread : BlockFault.readBytes Defaults.ofValue text with
    | ok defaults => simpa only [hread] using h
    | error fault => simp [hread] at h

/-- Drafts that differ at most in the place of the open block. They declare the same, and go
on doing so with the same lines. -/
structure Draft.Same (d d' : Draft) : Prop where
  declared : d.declared = d'.declared
  block : d.block.map (fun b => (b.kind, b.text)) = d'.block.map (fun b => (b.kind, b.text))

namespace Draft.Same

variable {d d' e : Draft}

/-- A draft is the same as itself: nothing differs before the pasted text. -/
theorem refl (d : Draft) : d.Same d := ⟨rfl, rfl⟩

/-- The same lines are includes, as this depends only on whether a block is open. -/
theorem inclusion?_eq (h : d.Same d') (line : Bytes) : d'.inclusion? line = d.inclusion? line := by
  have hblock := h.block
  unfold inclusion?
  -- Both have a block open or none has.
  cases hd : d.block with
  | none =>
    rw [hd] at hblock
    rw [Option.map_eq_none_iff.mp hblock.symm]
  | some b =>
    rw [hd] at hblock
    obtain ⟨b', hb', -⟩ := Option.map_eq_some_iff.mp hblock.symm
    rw [hb']

/-- The same declarations are complete. Where a block is left open, the two would fail at
different places, but `hfinish` says that none is. -/
theorem finish (h : d.Same d') {x : Declared} (hfinish : d.finish = .ok x) :
    d'.finish = .ok x := by
  have hblock := h.block
  unfold Draft.finish at hfinish ⊢
  cases hd : d.block with
  | none =>
    rw [hd] at hblock hfinish
    rw [Option.map_eq_none_iff.mp hblock.symm, ← h.declared]
    exact hfinish
  | some b =>
    rw [hd] at hfinish
    cases hfinish

/-- The same lines are taken in, and leave drafts that are the same again. -/
theorem takeLine (h : d.Same d') {place : Place} {line : Bytes}
    (htake : d.takeLine place line = .ok e) (place' : Place) :
    ∃ e', d'.takeLine place' line = .ok e' ∧ e.Same e' := by
  obtain ⟨decl, block⟩ := d
  obtain ⟨decl', block'⟩ := d'
  obtain ⟨rfl, hblock⟩ : decl = decl' ∧ _ := ⟨h.declared, h.block⟩
  cases block with
  | none =>
    obtain rfl : block' = none := Option.map_eq_none_iff.mp hblock.symm
    unfold Draft.takeLine at htake ⊢
    cases hclassify : Directive.classify line with
    | block kind =>
      simp only [hclassify] at htake ⊢
      cases htake
      exact ⟨_, rfl, rfl, rfl⟩
    | inclusion p =>
      simp only [hclassify] at htake ⊢
      exact ⟨e, htake, .refl e⟩
    | text =>
      simp only [hclassify] at htake ⊢
      exact ⟨e, htake, .refl e⟩
  | some b =>
    -- Both blocks have the same kind and text, so the line ends both or goes to both.
    obtain ⟨⟨kind, header', text⟩, rfl, hb⟩ := Option.map_eq_some_iff.mp hblock.symm
    obtain ⟨_, header, _⟩ := b
    cases hb
    simp only [Draft.takeLine, HalfBlock.takeLine] at htake ⊢
    split at htake
    · rename_i hend
      rw [if_pos hend]
      cases hwith : decl.withBlock ⟨kind, header, text⟩ with
      | error fault =>
        rw [hwith] at htake
        cases htake
      | ok decl' =>
        rw [hwith] at htake
        cases htake
        exact ⟨_, by rw [Declared.withBlock_elsewhere hwith header']; rfl, rfl, rfl⟩
    · rename_i hend
      cases htake
      exact ⟨_, if_neg hend, rfl, rfl⟩

end Draft.Same

/-- Lines that are read are also read with fewer files open, under another path and with
other numbers. The files that were open may have changed, since none of them is read here. -/
theorem expandLines_same {fs fs' : Files} (hresolve : fs'.resolve = fs.resolve) {rootDir : Path}
    {reading : List Nat} {lines : List Bytes} {path : Path} {read : Nat} {d d' e : Draft}
    (h : expandLines fs rootDir reading path read lines d = .ok e) (hsame : d.Same d')
    {reading' : List Nat} (hsub : reading' ⊆ reading)
    (hcontent : ∀ file, file ∉ reading → fs'.content file = fs.content file)
    (path' : Path) (read' : Nat) :
    ∃ e', expandLines fs' rootDir reading' path' read' lines d' = .ok e' ∧ e.Same e' := by
  induction reading, lines using expandLines_induction fs
    generalizing path read d d' e reading' path' read' with
  | nil reading =>
    rw [expandLines] at h
    cases h
    exact ⟨d', by rw [expandLines], hsame⟩
  | cons reading line rest ihrest ihfile =>
    obtain ⟨d₁, hline, hrest⟩ := expandLines_cons_eq_ok.mp h
    -- The first line by itself: it is taken in both times, or includes a file that was not
    -- open the first time and hence is not open the second time.
    have hline' : ∃ d₁', expandLine fs' rootDir reading' ⟨path', read' + 1⟩ line d' = .ok d₁' ∧
        d₁.Same d₁' := by
      rcases expandLine_eq_ok.mp hline with
        ⟨hnone, htake⟩ | ⟨p, path₁, file, c, hsome, hfind, hnew, hc, hlines⟩
      · obtain ⟨d₁', htake', hsame₁⟩ := hsame.takeLine htake ⟨path', read' + 1⟩
        exact ⟨d₁', expandLine_eq_ok.mpr (.inl ⟨(hsame.inclusion?_eq line).trans hnone, htake'⟩),
          hsame₁⟩
      · -- The included file is open in both readings while it is read.
        obtain ⟨d₁', hlines', hsame₁⟩ := ihfile file c hnew hc hlines hsame
          (List.cons_subset_cons file hsub)
          (fun other hother => hcontent other fun hmem => hother (List.mem_cons_of_mem file hmem))
          path₁ 0
        refine ⟨d₁', expandLine_eq_ok.mpr (.inr ⟨p, path₁, file, c, ?_, ?_, ?_, ?_, hlines'⟩),
          hsame₁⟩
        · exact (hsame.inclusion?_eq line).trans hsome
        · rw [Files.find?, hresolve]
          exact hfind
        · exact fun hmem => hnew (hsub hmem)
        · exact (hcontent file hnew).trans hc
    obtain ⟨d₁', hline', hsame₁⟩ := hline'
    obtain ⟨e', hrest', hsame'⟩ := ihrest hrest hsame₁ hsub hcontent path' (read' + 1)
    exact ⟨e', expandLines_cons_eq_ok.mpr ⟨d₁', hline', hrest'⟩, hsame'⟩

/-- Where the lines of the root document are read and one of them is an
include, the lines with the included text are read in its place as well. It
takes that no file but the root document has changed. -/
theorem expandLines_replaceLine {fs : Files} {rootDir root : Path} {rootFile before : Nat}
    {text line : Bytes} {rest : List Bytes} {p : String} {d last : Draft}
    (hlines : expandLines fs rootDir [rootFile] root 0 (linesOf text) .blank = .ok last)
    (habove : expandLines fs rootDir [rootFile] root 0 ((linesOf text).take before) .blank = .ok d)
    (hdrop : (linesOf text).drop before = line :: rest) (hline : d.inclusion? line = some p) :
    ∃ path file c, fs.find? rootDir p = some (path, file) ∧ fs.content file = .bytes c ∧
      ∀ fs' : Files, fs'.resolve = fs.resolve →
        (∀ other, other ∉ [rootFile] → fs'.content other = fs.content other) →
        ∃ last', expandLines fs' rootDir [rootFile] root 0
            (linesOf (replaceLine text before (terminated c))) .blank = .ok last' ∧
          last.Same last' := by
  rw [← List.take_append_drop before (linesOf text), hdrop] at hlines
  obtain ⟨_, habove', hbehind⟩ := expandLines_append_eq_ok.mp hlines
  -- The lines before the include come to one draft, and it is the one where the include is
  -- found.
  cases habove.symm.trans habove'
  obtain ⟨d₁, hincluded, hbelow⟩ := expandLines_cons_eq_ok.mp hbehind
  rcases expandLine_eq_ok.mp hincluded with
    ⟨hnone, -⟩ | ⟨_, path, file, c, hsome, hfind, -, hc, hinside⟩
  · rw [hline] at hnone
    cases hnone
  cases hline.symm.trans hsome
  refine ⟨path, file, c, hfind, hc, fun fs' hresolve hcontent => ?_⟩
  obtain ⟨-, hrest, hbefore⟩ := drop_eq_cons hdrop
  -- The text has three parts. Each is read on from where the one before ended, and
  -- the included lines no longer have their file among those that are open.
  obtain ⟨e₀, hnewabove, hsame₀⟩ := expandLines_same hresolve habove (.refl _)
    (List.Subset.refl _) hcontent root 0
  obtain ⟨e₁, hnewinside, hsame₁⟩ := expandLines_same hresolve hinside hsame₀
    (List.subset_cons_self file [rootFile])
    (fun other hother => hcontent other fun hmem => hother (List.mem_cons_of_mem file hmem))
    root (0 + ((linesOf text).take before).length)
  obtain ⟨e₂, hnewbelow, hsame₂⟩ := expandLines_same hresolve hbelow hsame₁
    (List.Subset.refl _) hcontent root
    (0 + ((linesOf text).take before).length + (linesOf c).length)
  refine ⟨e₂, ?_, hsame₂⟩
  rw [linesOf_replaceLine hbefore, hrest]
  exact expandLines_append_eq_ok.mpr
    ⟨e₀, hnewabove, expandLines_append_eq_ok.mpr ⟨e₁, hnewinside, hnewbelow⟩⟩

/-- **An include is a textual paste.** Where a document is read and comes to
an include in the root document, the included file has been found, and with
its text written in place of that line the root document is read as well.
It declares the same axes and defaults and has the same body. -/
theorem include_is_paste (fs : Files) (root : Path) {d : Document}
    (hread : Document.read fs root = .ok d) {before : Nat} {p : String}
    (hline : fs.IncludesAt root before p) :
    ∃ path file c rootFile text, fs.find? (Source.directoryOf root) p = some (path, file) ∧
      fs.content file = .bytes c ∧ fs.resolve root = some rootFile ∧
      fs.content rootFile = .bytes text ∧
      ∃ d', Document.read (fs.write rootFile (replaceLine text before (terminated c))) root
          = .ok d' ∧ d'.axes = d.axes ∧ d'.defaults = d.defaults ∧ d'.body = d.body := by
  obtain ⟨rootFile, text, last, hroot, htext, hlines, hlast⟩ := expandLines_of_read hread
  obtain ⟨d₀, line, rest, hdrop, hinclusion, habove⟩ := hline.draft hroot htext
  obtain ⟨path, file, c, hfind, hc, hpaste⟩ :=
    expandLines_replaceLine hlines habove hdrop hinclusion
  refine ⟨path, file, c, rootFile, text, hfind, hc, hroot, htext, ?_⟩
  have hfile : rootFile < fs.contents.length :=
    Files.lt_length_of_content fun fault => by simp [htext]
  have hroot' : (fs.write rootFile (replaceLine text before (terminated c))).resolve root
      = some rootFile := hroot
  -- Writing changes the root document only, and that is being read, so no include reads it.
  obtain ⟨last', hlines', hsame⟩ :=
    hpaste (fs.write rootFile (replaceLine text before (terminated c))) rfl
      fun other hother => Files.content_write_of_ne (List.ne_of_not_mem_cons hother) _
  obtain ⟨d', hread', hdeclared⟩ :=
    read_of_expandLines hroot' (Files.content_write hfile _) hlines' (hsame.finish hlast)
  obtain ⟨haxes, hdefaults, hbody⟩ := Declared.mk.inj hdeclared
  exact ⟨d', hread', haxes, hdefaults, hbody⟩

/-- `include_is_paste` where the included file opens a block that the root
document closes, includes a third file, and does not end in a newline. -/
theorem include_is_paste_across_block :
    let fs : Files := ⟨[.bytes (Text.encode "echo a\n#include b\nX: [1]\nend\necho z"),
      .bytes (Text.encode "#include c\nparams:"), .bytes (Text.encode "echo c\n")],
      [⟨"root"⟩, ⟨"b"⟩, ⟨"c"⟩].idxOf?⟩
    let pasted := Text.encode "echo a\n#include c\nparams:\nX: [1]\nend\necho z"
    let d : Document := ⟨⟨[⟨"X", ["1"]⟩]⟩, .empty,
      [Text.encode "echo z", Text.encode "echo c", Text.encode "echo a"]⟩
    Document.read fs ⟨"root"⟩ = .ok d ∧ fs.IncludesAt ⟨"root"⟩ 1 "b" ∧
      ∃ d', Document.read (fs.write 0 pasted) ⟨"root"⟩ = .ok d' ∧
        d'.axes = d.axes ∧ d'.defaults = d.defaults ∧ d'.body = d.body := by
  intro fs pasted d
  have hread : Document.read fs ⟨"root"⟩ = .ok d := by decide +kernel
  have hdir : Source.directoryOf ⟨"root"⟩ = ⟨"."⟩ := by decide +kernel
  have hroot : fs.resolve ⟨"root"⟩ = some 0 := by decide +kernel
  have hline : fs.IncludesAt ⟨"root"⟩ 1 "b" := by
    refine ⟨⟨⟨"."⟩,
        [⟨⟨"root"⟩, 0, .ok (Text.encode "echo a\n#include b\nX: [1]\nend\necho z"), 0⟩]⟩,
      ⟨⟨⟨"."⟩, [⟨⟨"root"⟩, 0, .ok (Text.encode "#include b\nX: [1]\nend\necho z"), 1⟩]⟩,
        ⟨.empty, .empty, [Text.encode "echo a"]⟩, none⟩,
      ⟨Text.encode "#include b", ⟨"root"⟩, 2⟩,
      ⟨⟨"."⟩, [⟨⟨"root"⟩, 0, .ok (Text.encode "X: [1]\nend\necho z"), 2⟩]⟩,
      ?_, ?_, rfl, ?_, rfl, rfl, ?_⟩
    · rw [Source.start, hroot, hdir]
      rfl
    · exact .single (by decide +kernel)
    · decide +kernel
    · decide +kernel
  obtain ⟨path, file, c, rootFile, text, hfind, hc, hrootFile, htext, hpaste⟩ :=
    include_is_paste fs ⟨"root"⟩ hread hline
  cases hroot.symm.trans hrootFile
  cases htext
  have hfound : fs.find? (Source.directoryOf ⟨"root"⟩) "b" = some (⟨"b"⟩, 1) := by decide +kernel
  cases hfound.symm.trans hfind
  cases hc
  have htext : replaceLine (Text.encode "echo a\n#include b\nX: [1]\nend\necho z") 1
      (terminated (Text.encode "#include c\nparams:")) = pasted := by decide +kernel
  rw [htext] at hpaste
  exact ⟨hread, hline, hpaste⟩

end ScriptMatrix
