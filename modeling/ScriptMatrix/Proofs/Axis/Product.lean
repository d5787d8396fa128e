import Mathlib.Data.List.Forall2
import Mathlib.Data.List.GetD
import ScriptMatrix.Proofs.Axis.Cursor

/-!
# `ScriptMatrix.Proofs.Axis.Product`: the product of the axes as a list

`emit` lists the product of some axes by recursion on them: for each value
of the first axis, in order, all bindings of the other axes. `indexVectors`
lists the indices in the same way. The binding at the place that the rank
of some indices names is the one that they select
(`getElem?_emit_rank`), and every vector of indices comes once, in
lexicographic order (`indexVectors_sorted`, `mem_indexVectors`).
-/

set_option autoImplicit false

namespace ScriptMatrix

open Odometer (Valid product rank select)

/-- The bindings of some axes, the values of the first axis in order and for each of them
all bindings of the others. This is the product as one would define it, without indices;
`Odometer.answer_eq_emit` says that an odometer gives it element by element. -/
def emit : List Axis → List (List (String × String))
  | [] => [[]]
  | a :: axes => a.values.flatMap fun v => (emit axes).map ((a.name, v) :: ·)

/-- The vectors of indices of some axes, in the order of `emit`. They make the order of
`emit` a statement about numbers (`indexVectors_sorted`), which the values, some of them
perhaps equal, cannot give. -/
def indexVectors : List Axis → List (List Nat)
  | [] => [[]]
  | a :: axes => (List.range a.values.length).flatMap fun i => (indexVectors axes).map (i :: ·)

/-- `emit` lists as many bindings as `product` counts. So a place below `product axes` is
one where `emit` has a binding, which is how `Stands` decides whether a call gives
something. -/
theorem length_emit (axes : List Axis) : (emit axes).length = product axes := by
  induction axes with
  | nil => rfl
  | cons a axes ih => simp [emit, product, List.length_flatMap, ih]

/-- The division of a place by the length of the parts, for a list that is put together of
parts of one length `n`. The quotient `i` is the number of the part and the remainder `r`
the place in it. `rank` makes its numbers in the same way, hence `getElem?_emit_rank`. -/
theorem getElem?_flatMap_part {α β : Type} {f : α → List β} {n : Nat} {l : List α}
    (hf : ∀ x, (f x).length = n) (i : Nat) {r : Nat} (hr : r < n) :
    (l.flatMap f)[i * n + r]? = l[i]?.bind fun x => (f x)[r]? := by
  induction l generalizing i with
  | nil => simp
  | cons x l ih =>
    rw [List.flatMap_cons]
    cases i with
    | zero =>
      rw [Nat.zero_mul, Nat.zero_add, List.getElem?_append_left (by rw [hf]; exact hr)]
      rfl
    | succ i =>
      -- The first part is passed as a whole, and the others are those of `l`.
      have hplace : (i + 1) * n + r = (f x).length + (i * n + r) := by
        rw [hf, Nat.succ_mul]
        omega
      rw [hplace, List.getElem?_append_right (Nat.le_add_right _ _), Nat.add_sub_cancel_left, ih]
      rfl

/-- The binding that valid indices `select` stands in `emit` at their `rank`. This is what
ties the recursion on axes to the numbers of an odometer. The induction is on `Valid`, so
that there is an index for every axis. -/
theorem getElem?_emit_rank {axes : List Axis} {cursor : List Nat} (h : Valid axes cursor) :
    (emit axes)[rank axes cursor]? = some (select axes cursor).entries := by
  induction h with
  | nil => rfl
  | cons hi hrest ih =>
    rename_i a i axes cursor
    have hpart : ∀ v, ((emit axes).map ((a.name, v) :: ·)).length = product axes := fun v => by
      rw [List.length_map, length_emit]
    rw [emit, rank, getElem?_flatMap_part hpart i (Valid.rank_lt hrest),
      List.getElem?_eq_getElem hi, Option.bind_some, List.getElem?_map, ih, Option.map_some]
    simp only [select, List.zipWith_cons_cons, List.getD_eq_getElem _ _ hi]

/-- `indexVectors` lists the indices that are `Valid`, and no others. With
`indexVectors_sorted` each of them is listed once. -/
theorem mem_indexVectors {axes : List Axis} {cursor : List Nat} :
    cursor ∈ indexVectors axes ↔ Valid axes cursor := by
  induction axes generalizing cursor with
  | nil => simp [indexVectors, Valid]
  | cons a axes ih =>
    rw [indexVectors, Valid, List.forall₂_cons_left_iff, List.mem_flatMap]
    simp only [List.mem_range, List.mem_map, ih]
    constructor
    · rintro ⟨i, hi, cursor', hvalid, hcursor⟩
      exact ⟨i, cursor', hi, hvalid, hcursor.symm⟩
    · rintro ⟨i, cursor', hi, hvalid, hcursor⟩
      exact ⟨i, hi, cursor', hvalid, hcursor.symm⟩

/-- The vectors of indices are listed in lexicographic order, so each of them comes once and
the last index turns fastest. `<` on lists is that order, and all vectors have the
same length. -/
theorem indexVectors_sorted (axes : List Axis) : (indexVectors axes).Pairwise (· < ·) := by
  induction axes with
  | nil => exact List.pairwise_singleton _ _
  | cons a axes ih =>
    rw [indexVectors, List.pairwise_flatMap]
    refine ⟨fun i _ => ?_, ?_⟩
    -- With one first index the others decide, and otherwise the first does.
    · refine List.pairwise_map.mpr (ih.imp fun hlt => ?_)
      exact List.cons_lt_cons_iff.mpr (.inr ⟨rfl, hlt⟩)
    · refine List.pairwise_lt_range.imp fun hlt x hx y hy => ?_
      obtain ⟨_, _, rfl⟩ := List.mem_map.mp hx
      obtain ⟨_, _, rfl⟩ := List.mem_map.mp hy
      exact List.cons_lt_cons_iff.mpr (.inl hlt)

/-- A list is its elements at the places from the first to the last. `select` reads values
with `getD`, so `emit_eq_select` needs the values of an axis in this form. -/
theorem eq_map_range_getD (l : List String) :
    l = (List.range l.length).map fun i => l.getD i "" := by
  refine List.ext_getElem (by rw [List.length_map, List.length_range]) fun i hi _ => ?_
  rw [List.getElem_map, List.getElem_range, List.getD_eq_getElem _ _ hi]

/-- `emit` selects by the vectors of indices in their order. Both sides go through the axes
in the same way, once the values of the first axis are written as those at its indices. -/
theorem emit_eq_select (axes : List Axis) :
    emit axes = (indexVectors axes).map fun cursor => (select axes cursor).entries := by
  induction axes with
  | nil => rfl
  | cons a axes ih =>
    rw [emit, indexVectors, ih, List.map_flatMap]
    conv_lhs => rw [eq_map_range_getD a.values, List.flatMap_map]
    simp only [List.map_map]
    rfl

end ScriptMatrix
