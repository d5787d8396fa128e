import ScriptMatrix.Path

/-!
# `ScriptMatrix.Proofs.Files.Join`: a file name below a directory

`Path.join` looks at how a directory is written: it may be empty, and may end
with a slash. What the joined path names does not depend on that:
`components_join` says that a file name is one step below the directory, so
different names below one directory are different paths (`join_inj`).

`front` are the pieces of the joined path before the file name. They are those
of the directory, but for an empty one at the end (`pieces_eq_front`).
-/

set_option autoImplicit false

namespace ScriptMatrix.Path

/-! ### Pieces -/

/-- There is at least one piece, even of an empty text. -/
theorem pieces_ne_nil (cs : List Char) : pieces cs ≠ [] := by
  cases cs with
  | nil => exact List.cons_ne_nil _ _
  | cons c cs =>
    rw [pieces]
    split
    · exact List.cons_ne_nil _ _
    · split <;> exact List.cons_ne_nil _ _

/-- A text without slashes is one piece, as it stands. File names are such texts. -/
theorem pieces_of_not_mem {cs : List Char} (h : '/' ∉ cs) : pieces cs = [cs] := by
  induction cs with
  | nil => rfl
  | cons c cs ih =>
    rw [List.mem_cons, not_or] at h
    rw [pieces, if_neg (by simpa using Ne.symm h.1), ih h.2]

/-- What stands in front of the names depends on the first piece, and on whether the path is
absolute. `components_join` compares the two of a directory and a path in it. -/
theorem lead_eq (p : Path) :
    p.lead = if (pieces p.text.toList).head? = some ['.'] then [.here]
      else if p.isAbsolute then [.root] else [] := by
  rw [lead]
  split
  case h_1 h => rw [h]; rfl
  case h_2 h =>
    have hhead : (pieces p.text.toList).head? ≠ some ['.'] := fun hhead => by
      obtain ⟨ps, hps⟩ := List.head?_eq_some_iff.mp hhead
      exact h ps hps
    rw [if_neg hhead]

/-- A slash ends a piece, so the pieces of both sides are the pieces of the whole. -/
theorem pieces_append_slash (cs ds : List Char) :
    pieces (cs ++ '/' :: ds) = pieces cs ++ pieces ds := by
  induction cs with
  | nil => rfl
  | cons c cs ih =>
    rw [List.cons_append, pieces, pieces, ih]
    -- A slash begins a new piece on both sides, and any other character goes to the first
    -- piece.
    by_cases hc : c == '/'
    · rw [if_pos hc, if_pos hc, List.cons_append]
    · rw [if_neg hc, if_neg hc]
      obtain ⟨p, ps, hp⟩ := List.exists_cons_of_ne_nil (pieces_ne_nil cs)
      rw [hp]
      rfl

/-! ### File names -/

/-- A name of one step: no slash, and not one of the pieces that say something else.
`FileName.isFileName_of_not_mem` gives it for the names of scripts. -/
structure IsFileName (f : List Char) : Prop where
  noSlash : '/' ∉ f
  step : stepOf f = some (.name f)

namespace IsFileName

variable {f : List Char} (hf : IsFileName f)
include hf

/-- A file name has characters. An empty piece is no step. -/
theorem ne_nil : f ≠ [] := by
  rintro rfl
  cases hf.step

/-- A file name is not the current directory. -/
theorem ne_dot : f ≠ ['.'] := by
  rintro rfl
  cases hf.step

/-- A file name is not the directory above. -/
theorem ne_dots : f ≠ ['.', '.'] := by
  rintro rfl
  cases hf.step

/-- A file name is a relative path. So joining keeps the directory in front of it. -/
theorem not_isAbsolute : isAbsolute ⟨String.ofList f⟩ = false := by
  obtain ⟨c, cs, rfl⟩ := List.exists_cons_of_ne_nil hf.ne_nil
  have hc : c ≠ '/' := fun h => hf.noSlash (h ▸ List.mem_cons_self)
  simpa [isAbsolute] using hc

end IsFileName

/-! ### Joining -/

/-- The pieces of a path that are in front of what is joined to it. They are the same
however the directory is written, with a slash at its end or without. -/
def front (dir : Path) : List (List Char) :=
  if dir.text.isEmpty then []
  else if dir.text.toList.getLast? == some '/' then pieces dir.text.toList.dropLast
  else pieces dir.text.toList

/-- A path has the pieces in front of what is joined to it, and may have an empty one behind
these. The empty one says nothing, so both lead to the same steps. -/
theorem pieces_eq_front (dir : Path) :
    pieces dir.text.toList = dir.front ∨ pieces dir.text.toList = dir.front ++ [[]] := by
  rw [front]
  split
  case isTrue h => exact .inr (by rw [String.isEmpty_iff.mp h]; rfl)
  case isFalse =>
    split
    case isTrue h =>
      obtain ⟨cs, hcs⟩ := List.getLast?_eq_some_iff.mp (beq_iff_eq.mp h)
      rw [hcs, List.dropLast_concat]
      exact .inr (pieces_append_slash cs [])
    case isFalse => exact .inl rfl

variable {f : List Char}

/-- The text of a directory and a file name in it. Of the tests in `Path.join`, only those
of the directory are left. -/
theorem join_eq (hf : IsFileName f) (dir : Path) :
    dir.join (String.ofList f) =
      if dir.text.isEmpty then ⟨String.ofList f⟩
      else if dir.text.toList.getLast? == some '/' then ⟨dir.text ++ String.ofList f⟩
      else ⟨dir.text ++ "/" ++ String.ofList f⟩ := by
  rw [join, hf.not_isAbsolute, Bool.false_or]

/-- The file name is the last piece, in all three ways that `join_eq` lists. -/
theorem pieces_join (hf : IsFileName f) (dir : Path) :
    pieces (dir.join (String.ofList f)).text.toList = dir.front ++ [f] := by
  rw [join_eq hf, front]
  split
  · rw [String.toList_ofList, pieces_of_not_mem hf.noSlash]
    rfl
  · split
    case isTrue h =>
      obtain ⟨cs, hcs⟩ := List.getLast?_eq_some_iff.mp (beq_iff_eq.mp h)
      -- The slash at the end of the directory ends its last piece, so the name is a piece
      -- of its own.
      rw [String.toList_append, hcs, List.dropLast_concat, String.toList_ofList,
        List.append_assoc, List.singleton_append, pieces_append_slash,
        pieces_of_not_mem hf.noSlash]
    case isFalse =>
      have htext : (dir.text ++ "/" ++ String.ofList f).toList = dir.text.toList ++ '/' :: f := by
        simp
      rw [htext, pieces_append_slash, pieces_of_not_mem hf.noSlash]

/-- A file name does not change whether a path is absolute. -/
theorem isAbsolute_join (hf : IsFileName f) (dir : Path) :
    (dir.join (String.ofList f)).isAbsolute = dir.isAbsolute := by
  rw [join_eq hf]
  split
  case isTrue h => rw [hf.not_isAbsolute, isAbsolute, String.isEmpty_iff.mp h]; rfl
  case isFalse h =>
    -- Where the directory has a text, the first character of the path is its first
    -- character.
    have hne : dir.text.toList ≠ [] := by simpa [String.isEmpty_iff] using h
    obtain ⟨c, cs, hcs⟩ := List.exists_cons_of_ne_nil hne
    split <;> simp [isAbsolute, hcs]

/-- What is joined to an absolute path is absolute, whatever it is. A path that is absolute
itself takes the place of the directory. -/
theorem isAbsolute_join_of_isAbsolute {dir : Path} (h : dir.isAbsolute = true) (sub : String) :
    (dir.join sub).isAbsolute = true := by
  -- Whatever is put behind it, the path begins with the slash of the directory.
  have hfirst : ∀ rest, (Path.mk (dir.text ++ rest)).isAbsolute = true := fun rest => by
    rw [isAbsolute, beq_iff_eq] at h ⊢
    rw [String.toList_append, List.head?_append, h]
    rfl
  rw [join]
  split
  case isTrue hsub =>
    rcases Bool.or_eq_true_iff.mp hsub with hsub | hempty
    · exact hsub
    · rw [isAbsolute, String.isEmpty_iff.mp hempty] at h
      cases h
  case isFalse =>
    split
    · exact hfirst sub
    · rw [String.append_assoc]
      exact hfirst _

/-- **A file name is one step below its directory.** Nothing of how the directory is written
comes into it: the empty piece behind `front` is no step, and the first piece is the same. -/
theorem components_join (hf : IsFileName f) (dir : Path) :
    (dir.join (String.ofList f)).components = dir.components ++ [.name f] := by
  -- The piece that `front` may lack is empty, and so no step.
  have hsteps : (pieces dir.text.toList).filterMap stepOf = dir.front.filterMap stepOf := by
    rcases pieces_eq_front dir with h | h <;> rw [h]
    rw [List.filterMap_append]
    exact List.append_nil _
  have hlead : (dir.join (String.ofList f)).lead = dir.lead := by
    have hhead : (dir.front ++ [f]).head? = some ['.']
        ↔ (pieces dir.text.toList).head? = some ['.'] := by
      rcases hfront : dir.front with _ | ⟨p, ps⟩
      · -- Nothing is in front, so the directory is written with no text.
        have hpieces : pieces dir.text.toList = [[]] := by
          rcases pieces_eq_front dir with h | h
          · exact absurd (h.trans hfront) (pieces_ne_nil _)
          · rw [h, hfront]
            rfl
        simp [hpieces, hf.ne_dot]
      · rcases pieces_eq_front dir with h | h <;> rw [h, hfront] <;> rfl
    rw [lead_eq, lead_eq, pieces_join hf, isAbsolute_join hf]
    simp only [hhead]
  rw [components, components, hlead, pieces_join hf, hsteps, List.filterMap_append,
    List.filterMap_cons, hf.step, List.append_assoc]
  rfl

/-- Different names in a directory are different paths, also when only the steps are
compared. -/
theorem join_inj {g : List Char} (hf : IsFileName f) (hg : IsFileName g) (dir : Path)
    (h : (dir.join (String.ofList f)).components = (dir.join (String.ofList g)).components) :
    f = g := by
  rw [components_join hf, components_join hg] at h
  simpa using h

end ScriptMatrix.Path
