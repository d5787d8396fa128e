import Mathlib.Data.Finset.Card
import ScriptMatrix.FileName
import ScriptMatrix.Proofs.Files.Join

/-!
# `ScriptMatrix.Proofs.Files.Unique`: no two scripts have one file

A descriptor is made a file name by a map that is many to one, and a numbered
name may be the plain name of another descriptor. `unique_of_free` and
`unique_of_taken` say which name is chosen nevertheless: the plain one if it is
free, and else the one with the least free number. Different numbers make
different names (`numbered_inj`), so fewer numbers are taken than there are paths
when the plain name is taken (`lt_card_of_taken`). This bound makes the search of
`freeNumber` complete.

`uniqueEach` are the files of calls that come one after the other. By
`nodup_uniqueEach` they are pairwise different, and by `card_uniqueEach` each is one
path more that is taken. `assign` are those of calls with one directory.
-/

set_option autoImplicit false

namespace ScriptMatrix

/-! ### Sets of paths -/

namespace PathSet

/-- Whether a path is there depends on its steps, not on how it is written. -/
theorem has_iff {s : PathSet} {p : Path} :
    s.has p = true ↔ p.components ∈ s.paths.map Path.components := by
  simp [has]

/-- A path is there after it is put in, and others are if they were. -/
theorem has_insert (s : PathSet) (p q : Path) :
    (s.insert p).has q = (s.has q || p.components == q.components) := by
  rw [insert]
  -- A path that is there is not put in again, and then anything with its steps is there
  -- already.
  cases hp : s.has p with
  | true =>
    rw [if_pos rfl]
    by_cases hq : p.components = q.components
    · have hhas : s.has q = true := has_iff.mpr (hq ▸ has_iff.mp hp)
      rw [hhas, Bool.true_or]
    · rw [beq_eq_false_iff_ne.mpr hq, Bool.or_false]
  | false =>
    rw [if_neg Bool.false_ne_true]
    exact Bool.or_comm _ _

/-- Putting in one path adds at most one. `assign_names` bounds the numbers by this. -/
theorem size_insert_le (s : PathSet) (p : Path) : (s.insert p).size ≤ s.size + 1 := by
  rw [insert]
  split
  · exact Nat.le_succ _
  · exact Nat.le_refl _

/-- The steps of the paths that are there, as a finite set. Counting paths means counting
these, since a path may be written in several ways. -/
def toFinset (s : PathSet) : Finset (List Component) := (s.paths.map Path.components).toFinset

/-- The steps of a path are in the set just if the path is there. -/
theorem mem_toFinset {s : PathSet} {p : Path} : p.components ∈ s.toFinset ↔ s.has p = true := by
  rw [toFinset, List.mem_toFinset, has_iff]

/-- The steps of a path are not in the set just if the path is not there. -/
theorem notMem_toFinset {s : PathSet} {p : Path} :
    p.components ∉ s.toFinset ↔ s.has p = false := by
  rw [mem_toFinset, Bool.not_eq_true]

/-- A path that is put in adds its steps, and nothing else. Where it was there already, the
set is the same. -/
theorem toFinset_insert (s : PathSet) (p : Path) :
    (s.insert p).toFinset = Insert.insert p.components s.toFinset := by
  rw [insert]
  split
  case isTrue h => exact (Finset.insert_eq_of_mem (mem_toFinset.mpr h)).symm
  case isFalse => exact List.toFinset_cons

/-- There are no more different steps than paths in the list. The fuel of `freeNumber` is
the length of the list, and the bound is on the set. -/
theorem card_toFinset_le (s : PathSet) : s.toFinset.card ≤ s.size :=
  (List.toFinset_card_le _).trans_eq (List.length_map _)

end PathSet

namespace FileName

variable (dir : Path) (descriptor : String)

/-! ### Names -/

/-- A character that stands for one of a descriptor is kept itself. -/
theorem isKept_safeChar (c : Char) : isKept (safeChar c) = true := by
  rw [safeChar]
  split
  case isTrue => decide
  case isFalse =>
    split
    case isTrue hkept => exact hkept
    case isFalse => decide

/-- A descriptor as a file name has kept characters only. Trimming its end takes some away
and adds none. -/
theorem isKept_of_mem_stem {c : Char} (hc : c ∈ stem descriptor) : isKept c = true := by
  have hmem := (List.dropWhile_suffix _).subset (List.mem_reverse.mp hc)
  obtain ⟨x, -, rfl⟩ := List.mem_map.mp (List.mem_reverse.mp hmem)
  exact isKept_safeChar x

/-- The digits of a number are kept characters. -/
theorem isKept_of_mem_digits {n : Nat} {c : Char} (hc : c ∈ (toString n).toList) :
    isKept c = true := by
  rw [Nat.toString_eq_ofList_toDigits, String.toList_ofList] at hc
  have hdigit : c.isDigit = true := Nat.isDigit_of_mem_toDigits (by decide) (by decide) hc
  rw [Char.isDigit, Bool.and_eq_true, decide_eq_true_eq, decide_eq_true_eq] at hdigit
  have hrange : ('0' ≤ c && c ≤ '9') = true := by
    rw [Bool.and_eq_true, decide_eq_true_eq, decide_eq_true_eq]
    exact hdigit
  rw [isKept, hrange]
  simp

/-- A descriptor has kept characters only, also with a suffix of such characters behind
it, since the hyphen between them is kept. The suffix is a number in `numbered`, and a
number that may have a sign in `counted`. -/
theorem isKept_of_mem_suffixed {suffix : List Char} (hsuffix : ∀ c ∈ suffix, isKept c = true)
    {c : Char} (hc : c ∈ stem descriptor ++ '-' :: suffix) : isKept c = true := by
  rcases List.mem_append.mp hc with hc | hc
  · exact isKept_of_mem_stem descriptor hc
  · rcases List.mem_cons.mp hc with rfl | hc
    · decide
    · exact hsuffix c hc

/-- A descriptor with a number behind it has kept characters only. -/
theorem isKept_of_mem_numbered {n : Nat} {c : Char}
    (hc : c ∈ stem descriptor ++ '-' :: (toString n).toList) : isKept c = true :=
  isKept_of_mem_suffixed descriptor (fun _ hc => isKept_of_mem_digits hc) hc

/-- A slash is not kept, so what has kept characters only is one piece of a path. -/
theorem slash_not_mem_of_isKept {cs : List Char} (h : ∀ c ∈ cs, isKept c = true) : '/' ∉ cs :=
  fun hmem => absurd (h '/' hmem) (by decide)

/-- A descriptor as a file name has no slash. -/
theorem slash_not_mem_stem : '/' ∉ stem descriptor :=
  slash_not_mem_of_isKept fun _ hc => isKept_of_mem_stem descriptor hc

/-- Neither has a descriptor with a number. -/
theorem slash_not_mem_numbered (n : Nat) : '/' ∉ stem descriptor ++ '-' :: (toString n).toList :=
  slash_not_mem_of_isKept fun _ hc => isKept_of_mem_numbered descriptor hc

/-- With the extension, what has no slash is a file name. The extension makes it longer than
the pieces that say something else. -/
theorem isFileName_of_not_mem {cs : List Char} (h : '/' ∉ cs) :
    Path.IsFileName (cs ++ ".sh".toList) := by
  refine ⟨by simpa using h, ?_⟩
  have hlength : (cs ++ ".sh".toList).length = cs.length + 3 := List.length_append
  have hne : ∀ l : List Char, l.length < 3 → (cs ++ ".sh".toList) ≠ l := fun l hl he => by
    rw [he] at hlength
    omega
  rw [Path.stepOf, List.isEmpty_eq_false_iff.mpr (hne [] (by decide)),
    beq_eq_false_iff_ne.mpr (hne ['.'] (by decide)),
    beq_eq_false_iff_ne.mpr (hne ['.', '.'] (by decide))]
  rfl

/-- Different numbers make different files. The names are equal up to their digits, and the
digits of a number are read back as the number. -/
theorem numbered_inj {i j : Nat}
    (h : (numbered dir descriptor i).components = (numbered dir descriptor j).components) :
    i = j := by
  have hnames := Path.join_inj (isFileName_of_not_mem (slash_not_mem_numbered descriptor i))
    (isFileName_of_not_mem (slash_not_mem_numbered descriptor j)) dir h
  simp only [List.append_cancel_right_eq, List.append_cancel_left_eq, List.cons.injEq, true_and,
    Nat.toString_eq_ofList_toDigits, String.toList_ofList] at hnames
  -- The digits are read back, so equal names have equal numbers.
  have hvalues := congrArg (Nat.ofDigitChars 10 · 0) hnames
  simpa using hvalues

/-- A number makes another file than none, since its name is longer. -/
theorem numbered_ne_plain (n : Nat) :
    (numbered dir descriptor n).components ≠ (ofDescriptor dir descriptor).components := by
  intro h
  have hnames := Path.join_inj (isFileName_of_not_mem (slash_not_mem_numbered descriptor n))
    (isFileName_of_not_mem (slash_not_mem_stem descriptor)) dir h
  have hlength := congrArg List.length hnames
  simp at hlength

/-! ### The search for a number -/

variable (taken : PathSet)

/-- The search passes taken numbers only, and ends with a free one unless the fuel is used
up. `lt_card_of_taken` then says that it is not. -/
theorem freeNumber_spec (fuel n : Nat) :
    ∃ steps, freeNumber dir descriptor taken fuel n = n + steps ∧
      (∀ k < steps, taken.has (numbered dir descriptor (n + k)) = true) ∧
      (steps < fuel → taken.has (numbered dir descriptor (n + steps)) = false) := by
  induction fuel generalizing n with
  | zero =>
    exact ⟨0, rfl, fun k hk => absurd hk k.not_lt_zero, fun h => absurd h (Nat.lt_irrefl 0)⟩
  | succ fuel ih =>
    rw [freeNumber]
    -- A free number ends the search with no step. A taken one is the first of those that
    -- are passed.
    cases hn : taken.has (numbered dir descriptor n) with
    | false =>
      exact ⟨0, rfl, fun k hk => absurd hk k.not_lt_zero, fun _ => hn⟩
    | true =>
      obtain ⟨steps, heq, hpassed, hfree⟩ := ih (n + 1)
      have hshift : ∀ k, n + 1 + k = n + (k + 1) := fun k => by omega
      refine ⟨steps + 1, ?_, ?_, ?_⟩
      · rw [if_pos rfl, heq, hshift]
      · rintro (_ | k) hk
        · exact hn
        · rw [← hshift]
          exact hpassed k (Nat.lt_of_succ_lt_succ hk)
      · intro hlt
        rw [← hshift]
        exact hfree (Nat.lt_of_succ_lt_succ hlt)

/-- When the plain name is taken, fewer numbers than there are paths are. Together with the
plain name they are different files, and all of them are among the paths. -/
theorem lt_card_of_taken (hplain : taken.has (ofDescriptor dir descriptor) = true)
    {start count : Nat}
    (hnumbers : ∀ k < count, taken.has (numbered dir descriptor (start + k)) = true) :
    count < taken.toFinset.card := by
  let files := ofDescriptor dir descriptor ::
    (List.range count).map fun k => numbered dir descriptor (start + k)
  have hnodup : (files.map Path.components).Nodup := by
    refine List.nodup_cons.mpr ⟨fun hmem => ?_, ?_⟩
    · simp only [List.map_map, List.mem_map] at hmem
      obtain ⟨k, -, hk⟩ := hmem
      exact numbered_ne_plain dir descriptor _ hk
    · rw [List.map_map]
      exact List.nodup_range.map fun i j h =>
        Nat.add_left_cancel (numbered_inj dir descriptor h)
  have hsubset : files.map Path.components ⊆ taken.paths.map Path.components := by
    refine List.cons_subset.mpr ⟨PathSet.has_iff.mp hplain, fun c hc => ?_⟩
    simp only [List.map_map, List.mem_map, List.mem_range] at hc
    obtain ⟨k, hk, rfl⟩ := hc
    exact PathSet.has_iff.mp (hnumbers k hk)
  -- These are one file more than numbers, all different, and all among the paths.
  have hle : (files.map Path.components).toFinset.card ≤ taken.toFinset.card :=
    Finset.card_le_card fun c hc => List.mem_toFinset.mpr (hsubset (List.mem_toFinset.mp hc))
  rw [List.toFinset_card_of_nodup hnodup] at hle
  simpa [files, Nat.succ_le_iff] using hle

/-- A plain name that is free is used. -/
theorem unique_of_free (h : taken.has (ofDescriptor dir descriptor) = false) :
    (unique dir descriptor taken).1 = ofDescriptor dir descriptor := by
  simp only [unique, h, Bool.false_eq_true, if_false]

/-- A plain name that is taken is numbered. The number is the least from two on that makes a
free name, and at most one more than there are paths. -/
theorem unique_of_taken (h : taken.has (ofDescriptor dir descriptor) = true) :
    ∃ n, 2 ≤ n ∧ n ≤ taken.toFinset.card + 1 ∧
      (∀ k, 2 ≤ k → k < n → taken.has (numbered dir descriptor k) = true) ∧
      taken.has (numbered dir descriptor n) = false ∧
      (unique dir descriptor taken).1 = numbered dir descriptor n := by
  obtain ⟨steps, heq, hpassed, hfree⟩ := freeNumber_spec dir descriptor taken taken.size 2
  -- All numbers that have been passed are taken, so they are fewer than the fuel, and the
  -- search has ended.
  have hlt := lt_card_of_taken dir descriptor taken h hpassed
  refine ⟨2 + steps, by omega, by omega, fun k hle hk => ?_,
    hfree (hlt.trans_le taken.card_toFinset_le), ?_⟩
  · obtain ⟨j, rfl⟩ := Nat.exists_eq_add_of_le hle
    exact hpassed j (by omega)
  · simp only [unique, h, if_true, heq]

/-- A path that a script can have in a directory: a name with the extension, joined to it. -/
def IsScriptPath (p : Path) : Prop :=
  ∃ cs, '/' ∉ cs ∧ p = dir.join (String.ofList (cs ++ ".sh".toList))

/-- **The file of a descriptor** is directly in the directory, and was not taken. This is
all that calls in a row need to know of one of them. -/
theorem unique_spec :
    IsScriptPath dir (unique dir descriptor taken).1 ∧
      taken.has (unique dir descriptor taken).1 = false := by
  cases h : taken.has (ofDescriptor dir descriptor) with
  | false =>
    rw [unique_of_free dir descriptor taken h]
    exact ⟨⟨_, slash_not_mem_stem descriptor, rfl⟩, h⟩
  | true =>
    obtain ⟨n, -, -, -, hfree, heq⟩ := unique_of_taken dir descriptor taken h
    rw [heq]
    exact ⟨⟨_, slash_not_mem_numbered descriptor n, rfl⟩, hfree⟩

/-- The steps of the file of a descriptor are not there before. -/
theorem components_unique_notMem : (unique dir descriptor taken).1.components ∉ taken.toFinset :=
  PathSet.notMem_toFinset.mpr (unique_spec dir descriptor taken).2

/-- There is one more path with the file of a descriptor. So calls in a row can count. -/
theorem card_insert_unique :
    (taken.insert (unique dir descriptor taken).1).toFinset.card = taken.toFinset.card + 1 := by
  rw [PathSet.toFinset_insert,
    Finset.card_insert_of_notMem (components_unique_notMem dir descriptor taken)]

/-! ### One file after the other -/

/-- The files of calls that come one after the other, each with a directory and a
descriptor, and what is taken after them. -/
def uniqueEach : List (Path × String) → PathSet → List Path × PathSet
  | [], taken => ([], taken)
  | (dir, d) :: calls, taken =>
    let (p, taken') := unique dir d taken
    let (ps, taken'') := uniqueEach calls taken'
    (p :: ps, taken'')

section
variable (calls : List (Path × String)) (taken : PathSet)

/-- The first call adds its file, and the others are made on what is taken then. The
inductions below rewrite with this in place of the `let`s of the definition. -/
theorem uniqueEach_cons (dir : Path) (d : String) :
    uniqueEach ((dir, d) :: calls) taken
      = ((unique dir d taken).1
          :: (uniqueEach calls (taken.insert (unique dir d taken).1)).1,
        (uniqueEach calls (taken.insert (unique dir d taken).1)).2) := rfl

/-- Every call gives a file. -/
theorem length_uniqueEach : (uniqueEach calls taken).1.length = calls.length := by
  induction calls generalizing taken with
  | nil => rfl
  | cons call calls ih => exact congrArg Nat.succ (ih _)

/-- What is taken afterwards was taken before, or is one of the files. -/
theorem toFinset_uniqueEach :
    (uniqueEach calls taken).2.toFinset
      = taken.toFinset ∪ ((uniqueEach calls taken).1.map Path.components).toFinset := by
  induction calls generalizing taken with
  | nil => exact (Finset.union_empty _).symm
  | cons call calls ih =>
    obtain ⟨dir, d⟩ := call
    rw [uniqueEach_cons, ih, PathSet.toFinset_insert, List.map_cons, List.toFinset_cons,
      Finset.union_insert, Finset.insert_union]

/-- Every call adds one path, so none of them gives a file that was there. -/
theorem card_uniqueEach :
    (uniqueEach calls taken).2.toFinset.card = taken.toFinset.card + calls.length := by
  induction calls generalizing taken with
  | nil => rfl
  | cons call calls ih =>
    obtain ⟨dir, d⟩ := call
    rw [uniqueEach_cons, ih, card_insert_unique, List.length_cons]
    omega

/-- No file is one of those that were taken. What is taken before a call is taken before the
later ones as well, by `has_insert`. -/
theorem not_has_of_mem_uniqueEach {p : Path} (hp : p ∈ (uniqueEach calls taken).1) :
    taken.has p = false := by
  induction calls generalizing taken with
  | nil => cases hp
  | cons call calls ih =>
    obtain ⟨dir, d⟩ := call
    rw [uniqueEach_cons] at hp
    rcases List.mem_cons.mp hp with rfl | hp
    · exact (unique_spec dir d taken).2
    · -- It is not among what is taken for the later calls, and that has all that was taken
      -- before.
      have hnot := ih _ hp
      rw [PathSet.has_insert, Bool.or_eq_false_iff] at hnot
      exact hnot.1

/-- **No two calls give the same file.** The first file is taken when the others are chosen. -/
theorem nodup_uniqueEach : ((uniqueEach calls taken).1.map Path.components).Nodup := by
  induction calls generalizing taken with
  | nil => exact List.nodup_nil
  | cons call calls ih =>
    obtain ⟨dir, d⟩ := call
    rw [uniqueEach_cons]
    refine List.nodup_cons.mpr ⟨fun hmem => ?_, ih _⟩
    obtain ⟨p, hp, hcomponents⟩ := List.mem_map.mp hmem
    -- The later files are not among what is taken then, and the first is.
    have hnot := not_has_of_mem_uniqueEach calls _ hp
    rw [PathSet.has_insert, Bool.or_eq_false_iff] at hnot
    exact beq_eq_false_iff_ne.mp hnot.2 hcomponents.symm

end

/-- The files of descriptors, in order, where some paths are taken. Rendering starts it with
none. -/
def assign : List String → PathSet → List Path
  | [], _ => []
  | d :: rest, taken => (unique dir d taken).1 :: assign rest (unique dir d taken).2

/-- The files of descriptors are those of calls with one directory. -/
theorem assign_eq (descriptors : List String) (taken : PathSet) :
    assign dir descriptors taken = (uniqueEach (descriptors.map (dir, ·)) taken).1 := by
  induction descriptors generalizing taken with
  | nil => rfl
  | cons d rest ih => exact congrArg ((unique dir d taken).1 :: ·) (ih _)

/-- There is a file for every descriptor. -/
theorem length_assign (descriptors : List String) (taken : PathSet) :
    (assign dir descriptors taken).length = descriptors.length := by
  rw [assign_eq, length_uniqueEach, List.length_map]

/-- Every file is named after its descriptor, with a number that grows with the number of
files only. So numbers stay below what a counter holds. -/
theorem assign_names (descriptors : List String) (taken : PathSet) :
    List.Forall₂ (fun p d => p = ofDescriptor dir d ∨
        ∃ n, 2 ≤ n ∧ n ≤ taken.size + descriptors.length ∧ p = numbered dir d n)
      (assign dir descriptors taken) descriptors := by
  induction descriptors generalizing taken with
  | nil => exact .nil
  | cons d rest ih =>
    have hsize : (unique dir d taken).2.size ≤ taken.size + 1 := PathSet.size_insert_le _ _
    refine .cons ?_ ((ih (unique dir d taken).2).imp fun p d' h => ?_)
    · cases h : taken.has (ofDescriptor dir d) with
      | false => exact .inl (unique_of_free dir d taken h)
      | true =>
        obtain ⟨n, hle, hbound, -, -, heq⟩ := unique_of_taken dir d taken h
        have hcard := taken.card_toFinset_le
        exact .inr ⟨n, hle, by rw [List.length_cons]; omega, heq⟩
    · -- The bound of the later files is one more on the number of paths, and one less on
      -- the number of files.
      refine h.imp id fun ⟨n, hle, hbound, hp⟩ => ⟨n, hle, ?_, hp⟩
      rw [List.length_cons]
      omega

/-- **No two descriptors have the same file.** Equal descriptors have not either. -/
theorem nodup_assign (descriptors : List String) (taken : PathSet) :
    ((assign dir descriptors taken).map Path.components).Nodup := by
  rw [assign_eq]
  exact nodup_uniqueEach _ taken

/-- Every file is directly in the directory, as each is one of `unique_spec`. -/
theorem isScriptPath_of_mem_assign {descriptors : List String} {taken : PathSet} {p : Path}
    (hp : p ∈ assign dir descriptors taken) : IsScriptPath dir p := by
  induction descriptors generalizing taken with
  | nil => cases hp
  | cons d rest ih =>
    rcases List.mem_cons.mp hp with rfl | hp
    · exact (unique_spec dir d taken).1
    · exact ih hp

end FileName

end ScriptMatrix
