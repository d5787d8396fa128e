import ScriptMatrix.Proofs.Document.Paste

/-!
# `ScriptMatrix.Proofs.Document.Body`: what is read as body stays body

A content whose lines are all text is its own body, up to the newline that a
last line without one gets (`expandLines_text`, `withNewlines_linesOf`). And the body
of any document is such a content: `Declared.Plain` says that it consists of
whole lines that are text, and no line that is read changes that
(`takeLine_plain`), whatever files are included (`expandLines_plain`).

`body_verbatim` puts the two together. A body that is read as a document of its
own comes back as it is.
-/

set_option autoImplicit false

namespace ScriptMatrix

/-- Lines with a newline behind each of them. This is how `Declared.addLine` puts lines into
a body. -/
def withNewlines (lines : List Bytes) : Bytes := lines.flatMap (· ++ [newlineByte])

@[simp] theorem withNewlines_nil : withNewlines [] = [] := rfl

@[simp] theorem withNewlines_cons (l : Bytes) (ls : List Bytes) :
    withNewlines (l :: ls) = l ++ newlineByte :: withNewlines ls := by
  simp [withNewlines]

@[simp] theorem withNewlines_append (ls ls' : List Bytes) :
    withNewlines (ls ++ ls') = withNewlines ls ++ withNewlines ls' :=
  List.flatMap_append

/-- A byte in front does not touch the end of a content that is not empty. In front of an
empty one it would be the end itself. -/
theorem terminated_cons (b : UInt8) {c : Bytes} (hc : c ≠ []) :
    terminated (b :: c) = b :: terminated c := by
  obtain ⟨x, xs, rfl⟩ := List.exists_cons_of_ne_nil hc
  unfold terminated
  rw [List.getLast?_cons_cons]
  by_cases hlast : (x :: xs).getLast? = some newlineByte
  · rw [if_pos (.inr hlast), if_pos (.inr hlast)]
  · rw [if_neg (by simp [hlast]), if_neg (by simp [hlast]), List.cons_append]

/-- The lines of a content are the content again, but for a newline at its end. Carriage
returns and bytes that are no text stay, as `linesOf` cuts at newlines only. -/
theorem withNewlines_linesOf (c : Bytes) : withNewlines (linesOf c) = terminated c := by
  induction c with
  | nil => rfl
  | cons b bs ih =>
    -- A newline makes a line of its own, and any other byte goes to the first line.
    by_cases hb : b = newlineByte
    · rw [linesOf, if_pos hb, withNewlines_cons, List.nil_append, ih, hb]
      cases bs with
      | nil => rfl
      | cons x xs => rw [terminated_cons _ (List.cons_ne_nil x xs)]
    · rw [linesOf, if_neg hb]
      cases bs with
      | nil => simp [terminated, hb]
      | cons x xs =>
        rw [terminated_cons _ (List.cons_ne_nil x xs), ← ih, linesOf_cons]
        simp

/-- Whole lines are cut where they were joined. This is the other way round from
`withNewlines_linesOf`, and takes lines without newlines in them. -/
theorem linesOf_withNewlines {lines : List Bytes} (h : ∀ l ∈ lines, newlineByte ∉ l) :
    linesOf (withNewlines lines) = lines := by
  induction lines with
  | nil => rfl
  | cons l lines ih =>
    obtain ⟨hl, hlines⟩ := List.forall_mem_cons.mp h
    rw [withNewlines_cons, linesOf_line_append hl, ih hlines]

/-- The lines of a content have no newline in them, so a line can go through
`linesOf_withNewlines` again once it has become part of a body. -/
theorem newline_not_mem_linesOf (c : Bytes) : ∀ l ∈ linesOf c, newlineByte ∉ l := by
  induction c with
  | nil => simp
  | cons b bs ih =>
    by_cases hb : b = newlineByte
    · rw [linesOf, if_pos hb]
      exact List.forall_mem_cons.mpr ⟨List.not_mem_nil, ih⟩
    · rw [linesOf, if_neg hb]
      -- The byte goes to the first line of the rest, if there is one.
      cases hrest : linesOf bs with
      | nil => simpa using Ne.symm hb
      | cons l ls =>
        rw [hrest] at ih
        obtain ⟨hl, hls⟩ := List.forall_mem_cons.mp ih
        exact List.forall_mem_cons.mpr
          ⟨List.not_mem_cons_of_ne_of_not_mem (Ne.symm hb) hl, hls⟩

/-! ### Lines that are text -/

/-- Lines that are text go to the body one after the other. The body so far is general, for
the induction. -/
theorem expandLines_text (fs : Files) (rootDir : Path) (reading : List Nat) (path : Path)
    (read : Nat) {lines : List Bytes} (h : ∀ l ∈ lines, Directive.classify l = .text)
    (d : Declared) :
    expandLines fs rootDir reading path read lines ⟨d, none⟩
      = .ok ⟨{ d with body := d.body ++ withNewlines lines }, none⟩ := by
  induction lines generalizing read d with
  | nil => rw [expandLines, withNewlines_nil, List.append_nil]
  | cons l lines ih =>
    obtain ⟨hl, hlines⟩ := List.forall_mem_cons.mp h
    -- It is no include, and being text it goes to the body.
    have hline : expandLine fs rootDir reading ⟨path, read + 1⟩ l ⟨d, none⟩
        = .ok ⟨d.addLine l, none⟩ := by
      rw [expandLine_eq]
      simp only [Draft.inclusion?, Draft.takeLine, hl]
    rw [expandLines_cons_eq_ok]
    refine ⟨_, hline, (ih _ hlines _).trans ?_⟩
    simp [Declared.addLine]

/-- A content whose lines are text is read as a body, with nothing else declared. This is
the first half of `body_verbatim`. -/
theorem read_text {fs : Files} {root : Path} {file : Nat} {c : Bytes}
    (hroot : fs.resolve root = some file) (hc : fs.content file = .bytes c)
    (htext : ∀ l ∈ linesOf c, Directive.classify l = .text) :
    ∃ d, Document.read fs root = .ok d ∧ d.axes = .empty ∧ d.defaults = .empty ∧
      d.body = terminated c := by
  have hlines := expandLines_text fs (Source.directoryOf root) [file] root 0 htext
    ⟨.empty, .empty, []⟩
  obtain ⟨d, hread, hdeclared⟩ := read_of_expandLines hroot hc hlines rfl
  obtain ⟨haxes, hdefaults, hbody⟩ := Declared.mk.inj hdeclared
  exact ⟨d, hread, haxes, hdefaults, hbody.trans (withNewlines_linesOf c)⟩

/-! ### Bodies -/

/-- The body consists of whole lines, and each of them is text. This is the invariant of the
module: what is read keeps it, includes and all. -/
def Declared.Plain (d : Declared) : Prop :=
  ∃ lines, d.body = withNewlines lines ∧
    ∀ l ∈ lines, newlineByte ∉ l ∧ Directive.classify l = .text

/-- The data of a block leaves the body, whichever kind it has. -/
theorem Declared.body_withBlock {d d' : Declared} {b : HalfBlock} (h : d.withBlock b = .ok d') :
    d'.body = d.body := by
  unfold withBlock at h
  split at h <;> split at h <;> cases h <;> rfl

/-- A line that is taken in is text if it goes to the body. Headers and the lines of blocks
go elsewhere, and an include is not taken in. -/
theorem Draft.takeLine_plain {d d' : Draft} {place : Place} {line : Bytes}
    (h : d.takeLine place line = .ok d') (hinclusion : d.inclusion? line = none)
    (hline : newlineByte ∉ line) (hd : d.declared.Plain) : d'.declared.Plain := by
  obtain ⟨declared, block⟩ := d
  unfold Draft.takeLine at h
  cases block with
  | some b =>
    dsimp only [HalfBlock.takeLine] at h
    split at h
    · -- The block ends and its data is taken in, which leaves the body.
      cases hwith : declared.withBlock b with
      | error fault =>
        rw [hwith] at h
        cases h
      | ok declared' =>
        rw [hwith] at h
        cases h
        obtain ⟨lines, hbody, hlines⟩ := hd
        exact ⟨lines, (Declared.body_withBlock hwith).trans hbody, hlines⟩
    · cases h
      exact hd
  | none =>
    cases hclassify : Directive.classify line with
    | block kind =>
      rw [hclassify] at h
      cases h
      exact hd
    | inclusion p =>
      rw [Draft.inclusion?, hclassify] at hinclusion
      cases hinclusion
    | text =>
      rw [hclassify] at h
      cases h
      obtain ⟨lines, hbody, hlines⟩ := hd
      -- The body gets one more whole line, and it is text.
      refine ⟨lines ++ [line], ?_, ?_⟩
      · simp only [Declared.addLine, withNewlines_append, withNewlines_cons, withNewlines_nil]
        rw [← hbody, List.append_assoc]
      · rw [List.forall_mem_append]
        exact ⟨hlines, by simpa using ⟨hline, hclassify⟩⟩

/-- Lines keep a body of text, and so do the files that they include. The lines are those of
some file, so none has a newline in it. -/
theorem expandLines_plain {fs : Files} {rootDir : Path} {reading : List Nat} {lines : List Bytes}
    (hlines : ∀ l ∈ lines, newlineByte ∉ l) {path : Path} {read : Nat} {d d' : Draft}
    (h : expandLines fs rootDir reading path read lines d = .ok d') (hd : d.declared.Plain) :
    d'.declared.Plain := by
  induction reading, lines using expandLines_induction fs generalizing path read d d' with
  | nil reading =>
    rw [expandLines] at h
    cases h
    exact hd
  | cons reading line rest ihrest ihfile =>
    obtain ⟨hline, hrest⟩ := List.forall_mem_cons.mp hlines
    obtain ⟨d₁, hfirst, hbehind⟩ := expandLines_cons_eq_ok.mp h
    refine ihrest hrest hbehind ?_
    rcases expandLine_eq_ok.mp hfirst with
      ⟨hnone, htake⟩ | ⟨p, path₁, file, c, -, -, hnew, hc, hinside⟩
    · exact Draft.takeLine_plain htake hnone hline hd
    · exact ihfile file c hnew hc (newline_not_mem_linesOf c) hinside hd

/-- The body of a document that is read is plain, since it starts empty. -/
theorem plain_of_read {fs : Files} {root : Path} {d : Document}
    (h : Document.read fs root = .ok d) : d.declared.Plain := by
  obtain ⟨file, c, last, -, -, hlines, hlast⟩ := expandLines_of_read h
  have hplain : last.declared.Plain :=
    expandLines_plain (newline_not_mem_linesOf c) hlines ⟨[], rfl, by simp⟩
  -- The end of a document changes nothing that has been declared.
  unfold Draft.finish at hlast
  split at hlast
  · exact Except.ok.inj hlast ▸ hplain
  · cases hlast

/-- A plain body has the lines it consists of, and they are the whole of it. With
`read_text` this makes it a document that comes back as it is. -/
theorem Declared.Plain.spec {d : Declared} (h : d.Plain) :
    (∀ l ∈ linesOf d.body, Directive.classify l = .text) ∧ terminated d.body = d.body := by
  obtain ⟨lines, hbody, hlines⟩ := h
  have hlinesOf : linesOf d.body = lines := by
    rw [hbody, linesOf_withNewlines fun l hl => (hlines l hl).1]
  refine ⟨fun l hl => (hlines l (hlinesOf ▸ hl)).2, ?_⟩
  rw [← withNewlines_linesOf, hlinesOf, hbody]

/-- **The body is kept byte for byte.** A content of any bytes in which no line
is a header of a block or an include is read as a document without axes and
defaults, and its body is the content, with a newline behind a last line that
has none. The body of any document that is read is such a content and ends its
last line: as a document of its own, among any files and under any path, it has
no axes and no defaults, and the same body. -/
theorem body_verbatim :
    (∀ (fs : Files) (root : Path) (file : Nat) (c : Bytes), fs.resolve root = some file →
      fs.content file = .bytes c → (∀ l ∈ linesOf c, Directive.classify l = .text) →
      ∃ d, Document.read fs root = .ok d ∧ d.axes = .empty ∧ d.defaults = .empty ∧
        d.body = terminated c) ∧
    ∀ (fs : Files) (root : Path) (d : Document), Document.read fs root = .ok d →
      ∀ (fs' : Files) (root' : Path) (file' : Nat), fs'.resolve root' = some file' →
        fs'.content file' = .bytes d.body →
        ∃ d', Document.read fs' root' = .ok d' ∧ d'.axes = .empty ∧ d'.defaults = .empty ∧
          d'.body = d.body := by
  refine ⟨fun fs root file c => read_text, fun fs root d hread fs' root' file' hroot' hbody => ?_⟩
  -- The body is plain, so as a document of its own it is read as text and nothing is put
  -- behind it.
  obtain ⟨htext, hterminated⟩ := (plain_of_read hread).spec
  obtain ⟨d', hread', haxes, hdefaults, hbody'⟩ := read_text hroot' hbody htext
  exact ⟨d', hread', haxes, hdefaults, hbody'.trans hterminated⟩

/-- `body_verbatim` where the content has carriage returns, a zero byte, a byte
that is no text, a line `end` and no newline at its end; and where it is the
body of a document that includes it, first inside a block and then outside. -/
theorem body_verbatim_odd_bytes :
    let c : Bytes := Text.encode "params:\r\nend\n\r" ++ [0x00, 0xff, 0x0a] ++ Text.encode "z"
    let fs : Files := ⟨[.bytes c, .bytes (Text.encode "params:\n#include a\nend\n#include a"),
      .bytes (c ++ [newlineByte])], [⟨"a"⟩, ⟨"b"⟩, ⟨"c"⟩].idxOf?⟩
    (∀ l ∈ linesOf c, Directive.classify l = .text) ∧
    (∃ d, Document.read fs ⟨"a"⟩ = .ok d ∧ d.axes = .empty ∧ d.defaults = .empty ∧
      d.body = c ++ [newlineByte]) ∧
    ∃ d, Document.read fs ⟨"b"⟩ = .ok d ∧ d.body = c ++ [newlineByte] ∧
      ∃ d', Document.read fs ⟨"c"⟩ = .ok d' ∧ d'.axes = .empty ∧ d'.defaults = .empty ∧
        d'.body = d.body := by
  intro c fs
  have htext : ∀ l ∈ linesOf c, Directive.classify l = .text := by decide +kernel
  have hterminated : terminated c = c ++ [newlineByte] := by decide +kernel
  let d : Document := ⟨.empty, .empty, (linesOf c).reverse⟩
  have hread : Document.read fs ⟨"b"⟩ = .ok d := by decide +kernel
  have hbody : d.body = c ++ [newlineByte] := by decide +kernel
  obtain ⟨hcontent, hbodies⟩ := body_verbatim
  refine ⟨htext, hterminated ▸ hcontent fs ⟨"a"⟩ 0 c (by decide +kernel) rfl htext, d, hread, hbody,
    hbodies fs ⟨"b"⟩ d hread fs ⟨"c"⟩ 2 (by decide +kernel) ?_⟩
  rw [hbody]
  rfl

end ScriptMatrix
