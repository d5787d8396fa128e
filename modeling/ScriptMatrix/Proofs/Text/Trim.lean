import Mathlib.Data.List.TakeWhile
import ScriptMatrix.Text.Blank

/-!
# `ScriptMatrix.Proofs.Text.Trim`: what trimming takes away

Trimming a text cuts it in three: blanks, a part that begins and ends with
characters that are not blank (`Trimmed`), and blanks again. There is one way to
do so: `exists_trim` and `trimmed_trim` say that `trim` gives the middle of such
a cut, and `Trimmed.trim_eq` says that it gives the middle of every one.

`trimEnd_cons` is trimming at the end as a recursion from the front, for proofs
by induction on a text.
-/

set_option autoImplicit false

namespace ScriptMatrix.Text

/-- A text that begins and ends with a character that is not blank. An empty text has
neither. -/
structure Trimmed (cs : List Char) : Prop where
  first : ∃ c, cs.head? = some c ∧ isBlank c = false
  last : ∃ c, cs.getLast? = some c ∧ isBlank c = false

/-! ### Blanks in front -/

section
variable {blanks cs : List Char} (hblanks : ∀ c ∈ blanks, isBlank c = true)
  (hcs : ∃ c, cs.head? = some c ∧ isBlank c = false)
include hblanks hcs

/-- The blanks in front of a character that is none are all that are there. -/
theorem takeWhile_blanks : (blanks ++ cs).takeWhile isBlank = blanks := by
  obtain ⟨c, hc, hblank⟩ := hcs
  obtain ⟨rest, rfl⟩ := List.head?_eq_some_iff.mp hc
  rw [List.takeWhile_append_of_pos hblanks, List.takeWhile_cons_of_neg (by simp [hblank]),
    List.append_nil]

/-- The blanks in front of a character that is none are taken away at the start. -/
theorem trimStart_blanks : trimStart (blanks ++ cs) = cs := by
  obtain ⟨c, hc, hblank⟩ := hcs
  obtain ⟨rest, rfl⟩ := List.head?_eq_some_iff.mp hc
  rw [trimStart, List.dropWhile_append_of_pos hblanks,
    List.dropWhile_cons_of_neg (by simp [hblank])]

end

/-- A text behind its leading blanks is empty or begins with another character. -/
theorem head?_trimStart {cs rest : List Char} {c : Char} (h : trimStart cs = c :: rest) :
    isBlank c = false := by
  have hne : trimStart cs ≠ [] := h ▸ List.cons_ne_nil c rest
  have hhead : isBlank ((trimStart cs).head hne) = false := by
    simpa [trimStart] using List.head_dropWhile_not isBlank (l := cs) hne
  simpa [h] using hhead

/-! ### Blanks at the end -/

/-- Trimming goes no further than to a character that is not blank. What is in front of one
is safe. -/
theorem trimEnd_append {back : List Char} (h : ∃ c ∈ back, isBlank c = false)
    (front : List Char) : trimEnd (front ++ back) = front ++ trimEnd back := by
  obtain ⟨c, hc, hblank⟩ := h
  -- Reversed, `back` comes first, and dropping stops inside it.
  have hkept : (back.reverse.dropWhile isBlank).isEmpty = false := by
    rw [List.isEmpty_eq_false_iff, Ne, List.dropWhile_eq_nil_iff]
    intro hall
    have htrue : isBlank c = true := hall c (List.mem_reverse.mpr hc)
    rw [hblank] at htrue
    cases htrue
  rw [trimEnd, List.reverse_append, List.dropWhile_append, if_neg (by simp [hkept]),
    List.reverse_append, List.reverse_reverse, trimEnd]

/-- Nothing is left of a text just if it is blank. -/
theorem trimEnd_eq_nil_iff {cs : List Char} : trimEnd cs = [] ↔ ∀ c ∈ cs, isBlank c = true := by
  simp [trimEnd, List.dropWhile_eq_nil_iff]

/-- The first character is taken away with the others, or not at all. -/
theorem trimEnd_cons (c : Char) (cs : List Char) :
    trimEnd (c :: cs) = if (c :: cs).all isBlank then [] else c :: trimEnd cs := by
  split
  case isTrue h => exact trimEnd_eq_nil_iff.mpr (List.all_eq_true.mp h)
  case isFalse h =>
    by_cases hcs : ∀ d ∈ cs, isBlank d = true
    · -- Then the first character is the last that is not blank.
      have hc : isBlank c = false := by
        cases hc : isBlank c with
        | false => rfl
        | true => exact (h (List.all_eq_true.mpr (List.forall_mem_cons.mpr ⟨hc, hcs⟩))).elim
      rw [trimEnd_eq_nil_iff.mpr hcs, trimEnd, List.reverse_cons,
        List.dropWhile_append_of_pos fun d hd => hcs d (List.mem_reverse.mp hd),
        List.dropWhile_cons_of_neg (by simp [hc])]
      rfl
    · have hink : ∃ d ∈ cs, isBlank d = false := by simpa using hcs
      exact trimEnd_append hink [c]

/-- Blanks behind a character that is none are taken away at the end. -/
theorem trimEnd_blanks {cs blanks : List Char}
    (hcs : ∃ c, cs.getLast? = some c ∧ isBlank c = false)
    (hblanks : ∀ c ∈ blanks, isBlank c = true) : trimEnd (cs ++ blanks) = cs := by
  obtain ⟨c, hc, hblank⟩ := hcs
  obtain ⟨front, rfl⟩ := List.getLast?_eq_some_iff.mp hc
  rw [trimEnd, List.reverse_append,
    List.dropWhile_append_of_pos fun d hd => hblanks d (List.mem_reverse.mp hd),
    List.reverse_append, List.reverse_singleton, List.singleton_append,
    List.dropWhile_cons_of_neg (by simp [hblank]), List.reverse_cons, List.reverse_reverse]

/-! ### Blanks on either side -/

/-- What trimming takes away is blank, on both sides. -/
theorem exists_trim (cs : List Char) :
    ∃ before behind, (∀ c ∈ before, isBlank c = true) ∧ (∀ c ∈ behind, isBlank c = true) ∧
      cs = before ++ trim cs ++ behind := by
  let reversed := (trimStart cs).reverse
  refine ⟨cs.takeWhile isBlank, (reversed.takeWhile isBlank).reverse,
    fun c hc => List.mem_takeWhile_imp hc,
    fun c hc => List.mem_takeWhile_imp (List.mem_reverse.mp hc), ?_⟩
  have hstart : trimStart cs = trim cs ++ (reversed.takeWhile isBlank).reverse := by
    rw [trim, trimEnd, ← List.reverse_append, List.takeWhile_append_dropWhile, List.reverse_reverse]
  rw [List.append_assoc, ← hstart, trimStart, List.takeWhile_append_dropWhile]

/-- Behind blanks that a character ends, trimming takes away at the end only. -/
theorem trim_of_trimStart {cs rest : List Char} {c : Char} (h : trimStart cs = c :: rest) :
    trim cs = c :: trimEnd rest := by
  rw [trim, h, trimEnd_cons, if_neg]
  intro hall
  have hc := List.all_eq_true.mp hall c List.mem_cons_self
  rw [head?_trimStart h] at hc
  cases hc

/-- What trimming leaves, if anything, is trimmed. -/
theorem trimmed_trim {cs : List Char} (h : trim cs ≠ []) : Trimmed (trim cs) := by
  constructor
  · -- It begins where trimming at the start has stopped.
    cases hstart : trimStart cs with
    | nil =>
      refine absurd ?_ h
      rw [trim, hstart]
      rfl
    | cons c rest => exact ⟨c, by rw [trim_of_trimStart hstart]; rfl, head?_trimStart hstart⟩
  · -- The text reversed begins where a `dropWhile` has stopped.
    let left := (trimStart cs).reverse.dropWhile isBlank
    have hreverse : trim cs = left.reverse := rfl
    have hne : left ≠ [] := fun hnil => h (by rw [hreverse, hnil]; rfl)
    refine ⟨left.head hne, ?_, ?_⟩
    · rw [hreverse, List.getLast?_reverse, List.head?_eq_some_head hne]
    · simpa using List.head_dropWhile_not isBlank (l := (trimStart cs).reverse) hne

/-- Trimming takes away blanks up to the first character that is none. With `exists_trim`
this makes the cut in three the only one. -/
theorem Trimmed.trim_eq {text : List Char} (h : Trimmed text) {before behind : List Char}
    (hbefore : ∀ c ∈ before, isBlank c = true) (hbehind : ∀ c ∈ behind, isBlank c = true) :
    trim (before ++ text ++ behind) = text := by
  -- The blanks in front end at the text, as it begins with a character that is none.
  have hfirst : ∃ c, (text ++ behind).head? = some c ∧ isBlank c = false := by
    obtain ⟨c, hc, hblank⟩ := h.first
    exact ⟨c, by rw [List.head?_append, hc]; rfl, hblank⟩
  rw [trim, List.append_assoc, trimStart_blanks hbefore hfirst, trimEnd_blanks h.last hbehind]

/-- A text without blanks is trimmed. Names are such texts. -/
theorem trimmed_of_forall {text : List Char} (h : ∀ c ∈ text, isBlank c = false)
    (hne : text ≠ []) : Trimmed text :=
  ⟨⟨text.head hne, List.head?_eq_some_head hne, h _ (List.head_mem hne)⟩,
    ⟨text.getLast hne, List.getLast?_eq_some_getLast hne, h _ (List.getLast_mem hne)⟩⟩

end ScriptMatrix.Text
