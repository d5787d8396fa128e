import ScriptMatrix.Document.Source

/-!
# `ScriptMatrix.Proofs.Document.Lines`: the lines of a content

`linesOf` cuts a content behind each newline, by recursion on its bytes.
A source never does that: it splits one line off at a time, whenever one
is asked for. `linesOf_cons` says that both come to the same lines. What
reading does with a document can thus be told by the list of its lines,
and `numbered` puts the place of each line beside it.

`length_linesOf_le` bounds the number of lines by the number of newlines.
-/

set_option autoImplicit false

namespace ScriptMatrix

/-- The lines of a content: it is cut behind each newline, and the
newlines are left out. What stands behind the last newline is a line of
its own unless it is empty. -/
def linesOf : Bytes → List Bytes
  | [] => []
  | b :: bs =>
    if b = newlineByte then [] :: linesOf bs
    else match linesOf bs with
      | [] => [[b]]
      | l :: ls => (b :: l) :: ls

@[simp] theorem linesOf_nil : linesOf [] = [] := rfl

/-- A content that is not empty has a first line, and both this line and the lines behind it
are what `splitLine` gives. `Source.nextOf` splits off one line at a time, so this is how it
is said to go through `linesOf`. -/
theorem linesOf_cons (b : UInt8) (bs : Bytes) :
    linesOf (b :: bs) = (splitLine (b :: bs)).1 :: linesOf (splitLine (b :: bs)).2 := by
  -- The byte in front is general, since the hypothesis is used for the one behind it.
  induction bs generalizing b with
  | nil =>
    by_cases hb : b = newlineByte
    · simp [linesOf, splitLine, hb]
    · simp [linesOf, splitLine, hb]
  | cons c bs ih =>
    by_cases hb : b = newlineByte
    · simp [linesOf, splitLine, hb]
    · -- The first line of the rest gets the byte in front.
      rw [linesOf, if_neg hb, ih c]
      simp [splitLine, hb]

/-- A content has at most one line more than it has newlines. `Reader.lineBound` counts
newlines, and has to be enough for all lines. -/
theorem length_linesOf_le (c : Bytes) : (linesOf c).length ≤ c.count newlineByte + 1 := by
  induction c with
  | nil => simp
  | cons b bs ih =>
    by_cases hb : b = newlineByte
    · rw [linesOf, if_pos hb, hb, List.length_cons, List.count_cons_self]
      omega
    · rw [linesOf, if_neg hb, List.count_cons_of_ne hb]
      -- The byte begins the last line, or makes the first line of the rest longer.
      cases h : linesOf bs with
      | nil => simp
      | cons l ls => simpa [h] using ih

/-- Where a list goes on with `l` behind `n` others, that is one more of its elements. A
document that has read `n` lines stands at `drop n`, and reading one more is told by all
three parts. -/
theorem drop_eq_cons {α : Type} {ls rest : List α} {n : Nat} {l : α}
    (h : ls.drop n = l :: rest) :
    ls.take (n + 1) = ls.take n ++ [l] ∧ ls.drop (n + 1) = rest ∧ n < ls.length := by
  -- In `ls` the element stands at `n`, from which all three parts follow.
  have hl : ls[n]? = some l := by
    rw [← Nat.add_zero n, ← List.getElem?_drop, h, List.getElem?_cons_zero]
  refine ⟨?_, ?_, (List.getElem?_eq_some_iff.mp hl).1⟩
  · rw [List.take_add_one, hl, Option.toList_some]
  · have htail := congrArg List.tail h
    rwa [List.tail_drop] at htail

/-- Lines of the document at a path with their places, the first of them behind `read`
others. Line numbers start at one. -/
def numbered (path : Path) (read : Nat) : List Bytes → List SourceLine
  | [] => []
  | l :: ls => ⟨l, ⟨path, read + 1⟩⟩ :: numbered path (read + 1) ls

@[simp] theorem numbered_nil (path : Path) (read : Nat) : numbered path read [] = [] := rfl

@[simp] theorem numbered_cons (path : Path) (read : Nat) (l : Bytes) (ls : List Bytes) :
    numbered path read (l :: ls) = ⟨l, ⟨path, read + 1⟩⟩ :: numbered path (read + 1) ls := rfl

/-- A numbered line has the path of its document and the number that its
place among the lines gives it. -/
theorem mem_numbered {path : Path} {read : Nat} {ls : List Bytes} {l : SourceLine}
    (h : l ∈ numbered path read ls) :
    l.place.path = path ∧ ∃ i, l.place.line = read + i + 1 ∧ ls[i]? = some l.bytes := by
  induction ls generalizing read with
  | nil => simp at h
  | cons b ls ih =>
    rw [numbered_cons, List.mem_cons] at h
    rcases h with rfl | h
    · exact ⟨rfl, 0, rfl, rfl⟩
    · obtain ⟨hpath, i, hline, hi⟩ := ih h
      exact ⟨hpath, i + 1, by omega, hi⟩

end ScriptMatrix
