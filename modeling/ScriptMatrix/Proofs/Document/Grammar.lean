import ScriptMatrix.Directive
import ScriptMatrix.Proofs.Document.Meaning
import ScriptMatrix.Proofs.Regex.Preference
import ScriptMatrix.Proofs.Text.Decoding
import ScriptMatrix.Proofs.Text.Trim

/-!
# `ScriptMatrix.Proofs.Document.Grammar`: which lines are directives

A line that includes a file has a form of its own: blanks, `#include`, blanks,
a path, blanks (`IncludeLine`). The path may hold blanks, but neither begins nor
ends with one, and stays on its line. That leaves one way to cut a line
(`IncludeLine.eq_of_text_eq`), and `includePath?` finds the path of every such cut
(`includePath?_eq_some_iff`).

The same lines are those that the expression `includePattern` matches. There the
path is not trimmed but found by preference: the blanks in front of it are as many
as possible, and it is as short as it can be with only blanks behind it up to the
end. `group?_includeExpr` says that both come to the same path.

`classify_eq_iff` is the grammar of all lines.
-/

set_option autoImplicit false

namespace ScriptMatrix.Directive

open Regex (Expr Stage)
open Text (Trimmed encode isBlank trim trimEnd trimStart)
open Unicode (CharSet)

/-- The path behind the word and one more character, which has to be a blank. This is the
only way to a path; where the word is missing, or nothing is behind it, the two lemmas below
apply. -/
theorem includePath?_of_trimStart {line rest : List Char} {c : Char}
    (h : trimStart line = includeWord ++ c :: rest) :
    includePath? line =
      if isBlank c = true ∧ trim rest ≠ [] ∧ '\n' ∉ trim rest then some (trim rest) else none := by
  have hword : includeWord.isPrefixOf (includeWord ++ c :: rest) = true :=
    List.isPrefixOf_iff_prefix.mpr (List.prefix_append _ _)
  rw [includePath?, h, hword, if_pos rfl, List.drop_left]
  dsimp only
  congr 1
  simp [and_assoc]

/-! ### Lines that include a file -/

/-- A line that includes a file, in its parts. The fields after them keep the parts from
running together: a gap with no character would leave the word open, and a path with blanks
at its ends would take from the gap or the tail. -/
@[ext]
structure IncludeLine where
  indent : List Char
  gap : List Char
  path : List Char
  tail : List Char
  indent_blank : ∀ c ∈ indent, isBlank c = true
  gap_blank : ∀ c ∈ gap, isBlank c = true
  gap_ne_nil : gap ≠ []
  path_trimmed : Trimmed path
  path_oneLine : '\n' ∉ path
  tail_blank : ∀ c ∈ tail, isBlank c = true

namespace IncludeLine

/-- The whole line, from its parts. `eq_of_text_eq` says that no parts are lost by this. -/
def text (l : IncludeLine) : List Char := l.indent ++ includeWord ++ l.gap ++ l.path ++ l.tail

variable (l : IncludeLine)

/-- What stands behind the indent begins with the number sign of the word. So the indent
ends where the blanks do, and `takeWhile` finds it. -/
theorem head?_word (rest : List Char) :
    ∃ c, (includeWord ++ rest).head? = some c ∧ isBlank c = false :=
  ⟨'#', rfl, by decide⟩

/-- What stands behind the gap begins with the path, and that begins with no blank. -/
theorem head?_path (rest : List Char) :
    ∃ c, (l.path ++ rest).head? = some c ∧ isBlank c = false := by
  obtain ⟨c, hc, hblank⟩ := l.path_trimmed.first
  exact ⟨c, by rw [List.head?_append, hc]; rfl, hblank⟩

/-- The path of a line is found: `trimStart` takes the indent off, and `trim` the gap and
the tail. -/
theorem includePath?_text : includePath? l.text = some l.path := by
  obtain ⟨c, gap, hgap⟩ := List.exists_cons_of_ne_nil l.gap_ne_nil
  obtain ⟨hc, hblanks⟩ := List.forall_mem_cons.mp (hgap ▸ l.gap_blank)
  have hstart : trimStart l.text = includeWord ++ c :: (gap ++ l.path ++ l.tail) := by
    have htext : l.text = l.indent ++ (includeWord ++ c :: (gap ++ l.path ++ l.tail)) := by
      simp only [text, hgap, List.append_assoc, List.cons_append]
    rw [htext]
    exact Text.trimStart_blanks l.indent_blank (head?_word _)
  -- What is left behind the word is the gap, the path and the tail, and the first character
  -- of the gap is taken off as the blank.
  have hpath : trim (gap ++ l.path ++ l.tail) = l.path :=
    l.path_trimmed.trim_eq hblanks l.tail_blank
  have hne : l.path ≠ [] := by
    rintro hnil
    obtain ⟨d, hd, -⟩ := l.path_trimmed.first
    rw [hnil] at hd
    cases hd
  rw [includePath?_of_trimStart hstart, hpath, if_pos ⟨hc, hne, l.path_oneLine⟩]

/-- There is one way to cut a line. The path is the one that is found, and the indent and
the gap are as many blanks as there are, so the tail is what is left. -/
theorem eq_of_text_eq {l m : IncludeLine} (h : l.text = m.text) : l = m := by
  have hpath : l.path = m.path :=
    Option.some.inj (by rw [← l.includePath?_text, h, m.includePath?_text])
  have hparts : ∀ n : IncludeLine,
      n.text = n.indent ++ (includeWord ++ (n.gap ++ (n.path ++ n.tail))) := by
    intro n
    simp only [text, List.append_assoc]
  rw [hparts, hparts] at h
  -- The word begins with no blank, so the indents are all blanks in front of it.
  have hindent : l.indent = m.indent := by
    rw [← Text.takeWhile_blanks l.indent_blank (head?_word _), h,
      Text.takeWhile_blanks m.indent_blank (head?_word _)]
  rw [hindent, List.append_cancel_left_eq, List.append_cancel_left_eq] at h
  have hgap : l.gap = m.gap := by
    rw [← Text.takeWhile_blanks l.gap_blank (l.head?_path _), h,
      Text.takeWhile_blanks m.gap_blank (m.head?_path _)]
  rw [hgap, hpath, List.append_cancel_left_eq, List.append_cancel_left_eq] at h
  exact IncludeLine.ext hindent hgap hpath h

end IncludeLine

/-- Without the word behind the indent there is no path. -/
theorem includePath?_of_not_isPrefixOf {line : List Char}
    (h : includeWord.isPrefixOf (trimStart line) = false) : includePath? line = none := by
  rw [includePath?, h]
  rfl

/-- Nor is there one if nothing stands behind the word, not even a blank. -/
theorem includePath?_of_word {line : List Char} (h : trimStart line = includeWord) :
    includePath? line = none := by
  rw [includePath?, h]
  rfl

/-- A path that is found makes a line of the form. The parts are what has been trimmed off
on the way to it. -/
theorem exists_of_includePath? {line path : List Char} (h : includePath? line = some path) :
    ∃ l : IncludeLine, l.text = line ∧ l.path = path := by
  cases hword : includeWord.isPrefixOf (trimStart line) with
  | false =>
    rw [includePath?_of_not_isPrefixOf hword] at h
    cases h
  | true =>
    obtain ⟨_ | ⟨c, rest⟩, hstart⟩ := List.isPrefixOf_iff_prefix.mp hword
    · rw [List.append_nil] at hstart
      rw [includePath?_of_word hstart.symm] at h
      cases h
    · rw [includePath?_of_trimStart hstart.symm] at h
      split at h
      case isFalse => cases h
      case isTrue hchecks =>
        cases h
        obtain ⟨hc, hne, honeLine⟩ := hchecks
        -- The gap is the blank behind the word and those before the path; the tail is what
        -- trimming has taken at the end.
        obtain ⟨before, behind, hbefore, hbehind, hrest⟩ := Text.exists_trim rest
        have hline : line.takeWhile isBlank ++ trimStart line = line :=
          List.takeWhile_append_dropWhile
        refine ⟨⟨line.takeWhile isBlank, c :: before, trim rest, behind,
          fun d hd => List.mem_takeWhile_imp hd, List.forall_mem_cons.mpr ⟨hc, hbefore⟩,
          List.cons_ne_nil c before, Text.trimmed_trim hne, honeLine, hbehind⟩, ?_, rfl⟩
        conv => rhs; rw [← hline, ← hstart, hrest]
        simp only [IncludeLine.text, List.append_assoc, List.cons_append]

/-- A path is found just in the lines of the form, so `IncludeLine` can stand for
`includePath?` in `classify_eq_iff`. -/
theorem includePath?_eq_some_iff {line path : List Char} :
    includePath? line = some path ↔ ∃ l : IncludeLine, l.text = line ∧ l.path = path := by
  refine ⟨exists_of_includePath?, ?_⟩
  rintro ⟨l, rfl, rfl⟩
  exact l.includePath?_text

/-! ### The expression for them -/

/-- The expression for lines that include a file. -/
def includePattern : String := "^\\s*#include\\s+(\\S.*?)\\s*$"

/-- What the expression requires at the end, behind the group: blanks, and then nothing. -/
def endParts (blank : CharSet) : List Expr := [.repeated (.chars blank) 0 none true, .look .textEnd]

/-- The group, and what stands behind it. Of the three sets, `ink` is for the first
character of the path and `other` for the rest of it. -/
def pathParts (blank ink other : CharSet) : List Expr :=
  .captured (.sequence [.chars ink, .repeated (.chars other) 0 none false]) :: endParts blank

/-- What the expression is, where sets of characters stand for its classes. The lemmas below
ask of the sets only which characters they have. -/
def includeExpr (blank ink other : CharSet) : Expr :=
  .sequence (.look .textStart :: .repeated (.chars blank) 0 none true :: .text includeWord ::
    .repeated (.chars blank) 1 none true :: pathParts blank ink other)

section
variable {blank ink other : CharSet} (hblank : ∀ c, blank.has c = isBlank c)
include hblank

/-- The end is reached just if there are only blanks, and it keeps the group. There is one
way at most, as fewer blanks leave one in front of the end. -/
theorem waysAll_endParts (before : Option Char) (cs : List Char) (group : Option (List Char)) :
    (Expr.waysAll (endParts blank) ⟨before, cs, group⟩).map Stage.group
      = if cs.all isBlank then [group] else [] := by
  have hend : ∀ b c cs, blank.has c = true →
      Expr.waysAll [.look .textEnd] ⟨b, c :: cs, group⟩ = [] := by
    intro b c cs _
    rfl
  obtain ⟨before', h⟩ := Stage.flatMap_rounds_greedy hend (Nat.lt_succ_self cs.length) before
  rw [endParts, Expr.waysAll_repeated, h]
  have hset : blank.has = isBlank := funext hblank
  cases hleft : cs.dropWhile blank.has with
  | nil =>
    rw [hset, List.dropWhile_eq_nil_iff] at hleft
    rw [if_pos (List.all_eq_true.mpr hleft)]
    rfl
  | cons c rest =>
    rw [if_neg]
    · rfl
    · intro hall
      rw [hset, List.dropWhile_eq_nil_iff.mpr (List.all_eq_true.mp hall)] at hleft
      cases hleft

variable (hother : ∀ c, other.has c = (c != '\n'))
include hother

/-- The path goes on until only blanks stand behind it. Before that it has to stay on its
line. `front` is what the group has matched already, and grows by a character in every
round. -/
theorem head?_stingy (front cs : List Char) (before : Option Char) (group : Option (List Char))
    {fuel : Nat} (hfuel : cs.length < fuel) :
    (((Stage.rounds (Stage.take other.has) false fuel 0 none ⟨before, cs, group⟩).flatMap fun t =>
        (Expr.waysAll (endParts blank)
          { t with group := some (Stage.upTo ⟨none, front ++ cs, none⟩ t) }).map
          Stage.group).head?)
      = if '\n' ∈ trimEnd cs then none else some (some (front ++ trimEnd cs)) := by
  induction cs generalizing front before fuel with
  | nil =>
    obtain ⟨fuel, rfl⟩ := Nat.exists_eq_add_one_of_ne_zero (Nat.ne_zero_of_lt hfuel)
    rw [Stage.rounds_nil, List.flatMap_singleton, waysAll_endParts hblank]
    simp [Stage.upTo, trimEnd]
  | cons c cs ih =>
    obtain ⟨fuel, rfl⟩ := Nat.exists_eq_add_one_of_ne_zero (Nat.ne_zero_of_lt hfuel)
    have hless : cs.length < fuel := by simpa using hfuel
    have hhere : Stage.upTo ⟨none, front ++ c :: cs, none⟩ ⟨before, c :: cs, group⟩ = front := by
      simp [Stage.upTo]
    rw [Stage.rounds_stingy_cons, List.flatMap_cons, waysAll_endParts hblank, hhere,
      Text.trimEnd_cons]
    -- If nothing but blanks is left the path ends here, as the rounds prefer to be few.
    by_cases hall : (c :: cs).all isBlank = true
    · rw [if_pos hall, if_pos hall, if_neg List.not_mem_nil, List.append_nil]
      rfl
    · rw [if_neg hall, if_neg hall, List.nil_append, hother]
      by_cases hc : c = '\n'
      · rw [if_neg (by simp [hc]), if_pos (by simp [hc])]
        rfl
      · have hmem : '\n' ∈ c :: trimEnd cs ↔ '\n' ∈ trimEnd cs := by
          simp [Ne.symm hc]
        rw [if_pos (by simpa using hc), List.append_cons front c cs, ih (front ++ [c]) _ hless]
        simp only [hmem, List.append_assoc, List.singleton_append]

variable (hink : ∀ c, ink.has c = !isBlank c)
include hink

/-- The group is what stands before the blanks at the end, if that begins with no blank and
stays on its line. The first character is taken by `ink`, and `head?_stingy` is about all
others. -/
theorem waysAll_pathParts (before : Option Char) {c : Char} (hc : isBlank c = false)
    (cs : List Char) :
    ((Expr.waysAll (pathParts blank ink other) ⟨before, c :: cs, none⟩).map Stage.group).head?
      = if '\n' ∈ trimEnd cs then none else some (some (c :: trimEnd cs)) := by
  have hfirst : (⟨before, c :: cs, none⟩ : Stage).take ink.has = [⟨some c, cs, none⟩] := by
    simp [Stage.take, hink, hc]
  -- The group takes one character by `ink`, and then rounds of `other`.
  have hpath : (Expr.sequence [.chars ink, .repeated (.chars other) 0 none false]).ways
        ⟨before, c :: cs, none⟩
      = Stage.rounds (Stage.take other.has) false (cs.length + 1) 0 none ⟨some c, cs, none⟩ := by
    rw [Expr.ways, Expr.waysAll, Expr.ways, hfirst, List.flatMap_singleton, Expr.waysAll_repeated]
    exact List.flatMap_singleton' _
  rw [pathParts, Expr.waysAll, Expr.ways, hpath, List.flatMap_map, List.map_flatMap]
  exact head?_stingy hblank hother [c] cs (some c) none (Nat.lt_succ_self _)

omit hother in
/-- Behind the word there has to be a blank. All blanks that are there are passed, since no
path begins with one. -/
theorem waysAll_gap (before : Option Char) (c : Char) (rest : List Char) :
    ∃ before', Expr.waysAll (.repeated (.chars blank) 1 none true :: pathParts blank ink other)
        ⟨before, c :: rest, none⟩
      = if isBlank c = true then
          Expr.waysAll (pathParts blank ink other) ⟨before', trimStart rest, none⟩
        else [] := by
  -- A path that would begin with a blank matches in no way.
  have hpath : ∀ b d ds, blank.has d = true →
      Expr.waysAll (pathParts blank ink other) ⟨b, d :: ds, none⟩ = [] := by
    intro b d ds hd
    have hnone : (⟨b, d :: ds, none⟩ : Stage).take ink.has = [] := by
      rw [hblank] at hd
      simp [Stage.take, hink, hd]
    rw [pathParts, Expr.waysAll, Expr.ways, Expr.ways, Expr.waysAll, Expr.ways, hnone]
    rfl
  obtain ⟨before', h⟩ :=
    Stage.flatMap_rounds_greedy_one hpath (Nat.lt_succ_self (rest.length + 1)) before c
  refine ⟨before', ?_⟩
  rw [Expr.waysAll_repeated, trimStart, ← hblank, ← show blank.has = isBlank from funext hblank]
  exact h

omit hother hink in
/-- In front of the word all blanks that are there are passed, since it begins with none.
With fewer of them, the word does not match. -/
theorem waysAll_indent (es : List Expr) (line : List Char) :
    ∃ before, Expr.waysAll (.repeated (.chars blank) 0 none true :: .text includeWord :: es)
        ⟨none, line, none⟩
      = Expr.waysAll (.text includeWord :: es) ⟨before, trimStart line, none⟩ := by
  have hword : ∀ b c cs, blank.has c = true →
      Expr.waysAll (.text includeWord :: es) ⟨b, c :: cs, none⟩ = [] := by
    intro b c cs hc
    have hne : c ≠ '#' := by
      rintro rfl
      exact absurd (hblank '#' ▸ hc) (by decide)
    have hnone : includeWord.isPrefixOf (c :: cs) = false := by
      rw [show includeWord = '#' :: "include".toList from rfl, List.isPrefixOf_cons_cons,
        beq_eq_false_iff_ne.mpr (Ne.symm hne), Bool.false_and]
    rw [Expr.waysAll, Expr.ways, Stage.takeText_of_not_isPrefixOf hnone, List.flatMap_nil]
  obtain ⟨before, h⟩ :=
    Stage.flatMap_rounds_greedy hword (Nat.lt_succ_self line.length) none
  refine ⟨before, ?_⟩
  rw [Expr.waysAll_repeated, trimStart, ← show blank.has = isBlank from funext hblank]
  exact h

/-- **The expression finds the path of the form.** -/
theorem group?_includeExpr (line : List Char) :
    (includeExpr blank ink other).group? line = includePath? line := by
  let gapParts : List Expr := .repeated (.chars blank) 1 none true :: pathParts blank ink other
  obtain ⟨before, hindent⟩ := waysAll_indent hblank gapParts line
  rw [includeExpr, Expr.group?_textStart, hindent]
  -- If the word is not there, no way goes past it.
  cases hprefix : includeWord.isPrefixOf (trimStart line) with
  | false =>
    rw [includePath?_of_not_isPrefixOf hprefix, Expr.waysAll, Expr.ways,
      Stage.takeText_of_not_isPrefixOf hprefix]
    rfl
  | true =>
    obtain ⟨behind, hbehind⟩ := List.isPrefixOf_iff_prefix.mp hprefix
    obtain ⟨before', hpast⟩ : ∃ before', Stage.takeText includeWord
        ⟨before, includeWord ++ behind, none⟩ = [⟨before', behind, none⟩] :=
      Stage.takeText_append includeWord behind before
    rw [← hbehind, Expr.waysAll, Expr.ways, hpast, List.flatMap_singleton]
    cases behind with
    | nil =>
      rw [includePath?_of_word (by rw [← hbehind, List.append_nil])]
      rfl
    | cons c rest =>
      obtain ⟨before'', hgap⟩ := waysAll_gap hblank hink before' c rest
      rw [includePath?_of_trimStart hbehind.symm, hgap]
      -- Behind the word comes a blank, or there is no way.
      cases hc : isBlank c with
      | false => rw [if_neg Bool.false_ne_true, if_neg (by simp)]; rfl
      | true =>
        rw [if_pos rfl]
        cases hstart : trimStart rest with
        | nil =>
          rw [if_neg (by simp [trim, hstart, trimEnd])]
          rfl
        | cons d ds =>
          -- The path begins where the blanks end.
          have hd : isBlank d = false := Text.head?_trimStart hstart
          have hne : '\n' ≠ d := by
            rintro rfl
            exact absurd hd (by decide)
          rw [waysAll_pathParts hblank hother hink before'' hd, Text.trim_of_trimStart hstart]
          by_cases hline : '\n' ∈ trimEnd ds <;> simp [hline, hne]
end

/-- The blanks, as the expression reads them. They are those of `isBlank` (`has_blankSet`). -/
def blankSet : CharSet := ⟨[(9, 13), (32, 32), (133, 133), (160, 160), (5760, 5760), (8192, 8202),
  (8232, 8233), (8239, 8239), (8287, 8287), (12288, 12288)]⟩

/-- The characters that are no blanks, which are all others that a `Char` can be. -/
def inkSet : CharSet := ⟨[(0, 8), (14, 31), (33, 132), (134, 159), (161, 5759), (5761, 8191),
  (8203, 8231), (8234, 8238), (8240, 8286), (8288, 12287), (12289, 55295), (57344, 1114111)]⟩

/-- The characters that stay on a line, which are all but the newline. -/
def otherSet : CharSet := ⟨[(0, 9), (11, 55295), (57344, 1114111)]⟩

/-- The set has the characters that `isBlank` has, number by number. -/
theorem has_blankSet (c : Char) : blankSet.has c = isBlank c := by
  rw [Bool.eq_iff_iff]
  simp only [blankSet, CharSet.has, CharSet.hasCode, CharSet.inRanges, isBlank,
    Bool.and_eq_true, Bool.or_eq_true, Bool.false_eq_true, or_false, decide_eq_true_eq, beq_iff_eq]
  omega

/-- The set has the characters that are no blanks. The surrogates are in neither, hence
`Char.valid`. -/
theorem has_inkSet (c : Char) : inkSet.has c = !isBlank c := by
  have hvalid : c.toNat < 0xd800 ∨ 0xdfff < c.toNat ∧ c.toNat < 0x110000 := c.valid
  rw [Bool.eq_iff_iff]
  simp only [inkSet, CharSet.has, CharSet.hasCode, CharSet.inRanges, isBlank,
    Bool.and_eq_true, Bool.or_eq_true, Bool.not_eq_true', Bool.or_eq_false_iff,
    Bool.and_eq_false_iff, decide_eq_true_eq, decide_eq_false_iff_not, beq_eq_false_iff_ne]
  omega

/-- The set has all characters but the newline. -/
theorem has_otherSet (c : Char) : otherSet.has c = (c != '\n') := by
  have hvalid : c.toNat < 0xd800 ∨ 0xdfff < c.toNat ∧ c.toNat < 0x110000 := c.valid
  have hnewline : c = '\n' ↔ c.toNat = 10 := Char.toNat_inj.symm
  rw [Bool.eq_iff_iff]
  simp only [otherSet, CharSet.has, CharSet.hasCode, CharSet.inRanges,
    Bool.and_eq_true, Bool.or_eq_true, decide_eq_true_eq, bne_iff_ne, ne_eq, hnewline]
  omega

/-- The expression as a tree: what `Pattern.read` makes of its text, before sets stand for
its classes. -/
def includeTree : Regex.Pattern :=
  .sequence ([.anchor .caret, .repeated (.shorthand .blank false) 0 none false]
    ++ ['#', 'i', 'n', 'c', 'l', 'u', 'd', 'e'].map (fun c => .letter ⟨c, false⟩)
    ++ [.repeated (.shorthand .blank false) 1 none false,
      .captured (.sequence [.shorthand .blank true, .repeated .dot 0 none true]),
      .repeated (.shorthand .blank false) 0 none false, .anchor .dollar])

/-- The text of the expression is read as `includeExpr` with the three sets. With this, what
holds of the tree holds of the text that a maintainer sees. -/
theorem ofText_includePattern :
    Expr.ofText includePattern = .ok (includeExpr blankSet inkSet otherSet) := by
  have hread : Regex.Pattern.read includePattern = .ok includeTree := rfl
  -- The dot is all but a list of characters. The list has one, but it is sorted first.
  have hdot : Regex.Flags.dot {} = .ok ⟨[(0, 9), (11, 1114111)]⟩ := by
    simp [Regex.Flags.dot, CharSet.ofList]
    rfl
  have hexpr : includeTree.expr.run {} = (Regex.Flags.dot {}).bind fun dot =>
      .ok (Expr.ofSequence [.look .textStart, .repeated (.chars blankSet) 0 none true,
        .text includeWord, .repeated (.chars blankSet) 1 none true,
        .captured (.ofSequence [.chars inkSet, (Expr.ofSet dot).ofRepetition 0 none false]),
        .repeated (.chars blankSet) 0 none true, .look .textEnd], {}) := rfl
  rw [Expr.ofText, hread]
  show (includeTree.expr.run {}).map Prod.fst = _
  rw [hexpr, hdot]
  rfl

/-! ### All lines -/

/-- A line opens a block just if it is its header. For the other direction there are two
lines to look at. -/
theorem classify_eq_block_iff {line : Bytes} {kind : BlockKind} :
    classify line = .block kind ↔ line = kind.header := by
  have hheader : ∀ k : BlockKind, classify k.header = .block k := by
    intro k
    cases k <;> decide +kernel
  refine ⟨fun h => ?_, fun h => h ▸ hheader kind⟩
  have hone : ∃ k : BlockKind, line = k.header := by
    by_contra hnone
    rw [not_exists] at hnone
    exact classify_ne_block (hnone .params) (hnone .defaultParams) kind h
  obtain ⟨k, rfl⟩ := hone
  rw [hheader] at h
  rw [Directive.block.inj h]

section
variable {line : Bytes} (hheader : ∀ kind : BlockKind, line ≠ kind.header)
include hheader

/-- Of a text that is no header it matters whether it has a path. -/
theorem classify_of_decode {s : String} (h : Text.decode line = .ok s) :
    classify line = match includePath? s.toList with
      | some path => .inclusion (String.ofList path)
      | none => .text := by
  rw [classify, if_neg (by simpa using hheader .params),
    if_neg (by simpa using hheader .defaultParams)]
  cases hpath : includePath? s.toList <;> simp [h, hpath]

/-- What is no text in UTF-8 is body, whatever its first bytes are. -/
theorem classify_of_error {fault : Text.Utf8Fault} (h : Text.decode line = .error fault) :
    classify line = .text := by
  rw [classify, if_neg (by simpa using hheader .params),
    if_neg (by simpa using hheader .defaultParams), h]

end

/-- A line includes a file just if it is a text with a path. The headers have none, so
nothing has to be said of them. -/
theorem classify_eq_inclusion_iff {line : Bytes} {path : String} :
    classify line = .inclusion path ↔
      ∃ s, line = encode s ∧ includePath? s.toList = some path.toList := by
  by_cases hheader : ∃ kind : BlockKind, line = kind.header
  · -- A header is a text, but one without a path.
    obtain ⟨kind, rfl⟩ := hheader
    rw [classify_eq_block_iff.mpr rfl]
    refine ⟨nofun, ?_⟩
    rintro ⟨s, hs, hpath⟩
    -- The line is the text of its header, and that has no path.
    have hname : kind.name ++ ":" = s := Text.encode_injective hs
    have hnone : includePath? (kind.name ++ ":").toList = none := by
      cases kind <;> decide +kernel
    rw [← hname, hnone] at hpath
    cases hpath
  · rw [not_exists] at hheader
    cases hdecode : Text.decode line with
    | error fault =>
      rw [classify_of_error hheader hdecode]
      refine ⟨nofun, ?_⟩
      rintro ⟨s, rfl, -⟩
      rw [Text.decode_encode] at hdecode
      cases hdecode
    | ok s =>
      rw [classify_of_decode hheader hdecode, Text.decode_eq_ok_iff.mp hdecode]
      cases hpath : includePath? s.toList with
      | none =>
        refine ⟨nofun, ?_⟩
        rintro ⟨s', hs', hpath'⟩
        rw [← Text.encode_injective hs', hpath] at hpath'
        cases hpath'
      | some cs =>
        constructor
        · intro h
          exact ⟨s, rfl, by rw [hpath, ← Directive.inclusion.inj h, String.toList_ofList]⟩
        · rintro ⟨s', hs', hpath'⟩
          rw [← Text.encode_injective hs', hpath] at hpath'
          rw [hpath']
          exact congrArg Directive.inclusion String.ofList_toList

/-- **The grammar of lines.** Take a line of any bytes. It opens a block just if it is
the header of the block, to the byte. It includes a file just if it is the text of an
`IncludeLine` in UTF-8, and then it is so in one way only, with the path of the file in
it. Any other line is text, be it UTF-8 or not.

The expression `includePattern` says the same: a line includes a file just if it is a
text in which the expression matches, and its group has then matched the path. -/
theorem classify_eq_iff (line : Bytes) :
    (classify line = .block .params ↔ line = encode "params:") ∧
    (classify line = .block .defaultParams ↔ line = encode "default_params:") ∧
    (∀ path, classify line = .inclusion path ↔
      ∃ l : IncludeLine, line = encode (String.ofList l.text) ∧ l.path = path.toList) ∧
    (∀ l m : IncludeLine, line = encode (String.ofList l.text) →
      line = encode (String.ofList m.text) → l = m) ∧
    (classify line = .text ↔ line ≠ encode "params:" ∧ line ≠ encode "default_params:" ∧
      ∀ l : IncludeLine, line ≠ encode (String.ofList l.text)) ∧
    ∃ e, Expr.ofText includePattern = .ok e ∧
      ∀ path, classify line = .inclusion path ↔
        ∃ s, line = encode s ∧ e.group? s.toList = some path.toList := by
  have hparams : classify line = .block .params ↔ line = encode "params:" := by
    rw [classify_eq_block_iff, header_params]
  have hdefaults : classify line = .block .defaultParams ↔ line = encode "default_params:" := by
    rw [classify_eq_block_iff, header_defaultParams]
  have hinclusion : ∀ path, classify line = .inclusion path ↔
      ∃ l : IncludeLine, line = encode (String.ofList l.text) ∧ l.path = path.toList := by
    intro path
    rw [classify_eq_inclusion_iff]
    constructor
    · rintro ⟨s, hs, hpath⟩
      obtain ⟨l, htext, hl⟩ := includePath?_eq_some_iff.mp hpath
      exact ⟨l, by rw [htext, String.ofList_toList, hs], hl⟩
    · rintro ⟨l, hl, hpath⟩
      exact ⟨_, hl, by rw [String.toList_ofList, l.includePath?_text, hpath]⟩
  refine ⟨hparams, hdefaults, hinclusion, fun l m hl hm => ?_, ?_,
    _, ofText_includePattern, fun path => ?_⟩
  · have htext := Text.encode_injective (hl.symm.trans hm)
    exact IncludeLine.eq_of_text_eq (by simpa using congrArg String.toList htext)
  · rw [Ne, Ne, ← hparams, ← hdefaults]
    constructor
    · intro htext
      refine ⟨by simp [htext], by simp [htext], fun l hl => ?_⟩
      have hpath := (hinclusion (String.ofList l.path)).mpr ⟨l, hl, String.toList_ofList.symm⟩
      rw [htext] at hpath
      cases hpath
    · rintro ⟨hnotParams, hnotDefaults, hnot⟩
      cases hclassify : classify line with
      | text => rfl
      | block kind =>
        cases kind with
        | params => exact absurd hclassify hnotParams
        | defaultParams => exact absurd hclassify hnotDefaults
      | inclusion path =>
        obtain ⟨l, hl, -⟩ := (hinclusion path).mp hclassify
        exact absurd hl (hnot l)
  · rw [classify_eq_inclusion_iff]
    simp only [group?_includeExpr has_blankSet has_otherSet has_inkSet]

/-- `classify_eq_iff` for a line with a carriage return at its end and a wide blank in
its gap. The path has a blank and a number sign in it. -/
theorem classify_eq_iff_carriage_return :
    let l : IncludeLine := ⟨['\t'], [' ', '\u2003'], "lib/a #b".toList, ['\r'],
      List.all_eq_true.mp (by decide), List.all_eq_true.mp (by decide), by decide,
      ⟨⟨'l', rfl, by decide⟩, ⟨'b', rfl, by decide⟩⟩, by decide, List.all_eq_true.mp (by decide)⟩
    let line := encode (String.ofList l.text)
    line = encode "\t#include \u2003lib/a #b\r" ∧ classify line = .inclusion "lib/a #b" ∧
      ∀ m : IncludeLine, line = encode (String.ofList m.text) → m = l := by
  intro l line
  obtain ⟨-, -, hinclusion, hone, -, -⟩ := classify_eq_iff line
  exact ⟨by decide +kernel, (hinclusion "lib/a #b").mpr ⟨l, rfl, rfl⟩,
    fun m hm => hone m l hm rfl⟩

end ScriptMatrix.Directive
