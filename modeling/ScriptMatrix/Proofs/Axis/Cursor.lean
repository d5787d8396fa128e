import Mathlib.Algebra.Group.Nat.Defs
import Mathlib.Data.List.Forall2
import ScriptMatrix.Axis.Odometer

/-!
# `ScriptMatrix.Proofs.Axis.Cursor`: indices as a mixed radix number

The indices of an odometer are the digits of a number whose radix at each
place is the number of values on that axis. `Odometer.rank` is the number,
`Odometer.Valid` says that every digit is below its radix. `advance_cases`
is the whole of what a step does: it adds one, and only the last number
turns over to zeros.
-/

set_option autoImplicit false

namespace ScriptMatrix

namespace Odometer

/-- There is one index for every axis, and each selects a value there. The invariant of an
odometer that runs: `Valid.zeros` is for its start and `advance_cases` for a step. -/
def Valid (axes : List Axis) (cursor : List Nat) : Prop :=
  List.Forall₂ (fun a i => i < a.values.length) axes cursor

/-- `product` by the sizes of the axes, without the recursion. Statements about counts have
this form, since `bindingCount` goes over the sizes too. -/
theorem product_eq_prod (axes : List Axis) :
    product axes = (axes.map (·.values.length)).prod := by
  induction axes with
  | nil => rfl
  | cons a axes ih => rw [product, ih, List.map_cons, List.prod_cons]

/-- The product is zero if and only if an axis has no values. An odometer looks for such an
axis at its first call, and then gives nothing. -/
theorem product_eq_zero {axes : List Axis} :
    product axes = 0 ↔ ∃ a ∈ axes, a.values = [] := by
  induction axes with
  | nil => simp [product]
  | cons a axes ih =>
    rw [product, Nat.mul_eq_zero, ih, List.exists_mem_cons_iff, List.length_eq_zero_iff]

/-- Zeros are valid if every axis has a value. An odometer starts with them, and comes back
to them behind an index that is turned on. -/
theorem Valid.zeros {axes : List Axis} (h : ∀ a ∈ axes, a.values ≠ []) :
    Valid axes (List.replicate axes.length 0) := by
  induction axes with
  | nil => exact .nil
  | cons a axes ih =>
    obtain ⟨ha, hrest⟩ := List.forall_mem_cons.mp h
    exact .cons (List.length_pos_iff.mpr ha) (ih hrest)

/-- Where some indices are valid, every axis has a value. So zeros may be put in their
place, which `advance_cases` does for the axes that turn over. -/
theorem Valid.values_ne_nil {axes : List Axis} {cursor : List Nat} (h : Valid axes cursor) :
    ∀ a ∈ axes, a.values ≠ [] := by
  induction h with
  | nil => exact fun a ha => absurd ha List.not_mem_nil
  | cons hi _ ih =>
    exact List.forall_mem_cons.mpr ⟨List.length_pos_iff.mp (Nat.zero_lt_of_lt hi), ih⟩

/-- Zeros have rank zero: the first call of an odometer gives the binding at place zero. -/
theorem rank_zeros (axes : List Axis) : rank axes (List.replicate axes.length 0) = 0 := by
  induction axes with
  | nil => rfl
  | cons a axes ih => rw [List.length_cons, List.replicate_succ, rank, ih, Nat.zero_mul]

/-- The rank of valid indices is below the product, as a number is below the power that its
digits make room for. Each digit leaves room for a multiple of the `product` behind it. -/
theorem Valid.rank_lt {axes : List Axis} {cursor : List Nat} (h : Valid axes cursor) :
    rank axes cursor < product axes := by
  induction h with
  | nil => exact Nat.one_pos
  | cons hi _ ih =>
    rename_i a i axes cursor _
    calc i * product axes + rank axes cursor
        < i * product axes + product axes := Nat.add_lt_add_left ih _
      _ = (i + 1) * product axes := (Nat.succ_mul _ _).symm
      _ ≤ a.values.length * product axes := Nat.mul_le_mul_right _ hi

/-- What a step does to valid indices. It gives indices of the next rank, or there is no
next rank and the indices start over. Every later fact about `advance` is taken from here.
The induction is on the axes from the right: only if those behind an axis have turned over
is its own index looked at. -/
theorem advance_cases {axes : List Axis} {cursor : List Nat} (h : Valid axes cursor) :
    (∃ cursor', advance axes cursor = (true, cursor') ∧ Valid axes cursor' ∧
      rank axes cursor' = rank axes cursor + 1) ∨
    (advance axes cursor = (false, List.replicate axes.length 0) ∧
      rank axes cursor + 1 = product axes) := by
  induction h with
  | nil => exact .inr ⟨rfl, rfl⟩
  | cons hi hrest ih =>
    rename_i a i axes cursor
    rw [advance]
    rcases ih with ⟨cursor', hadvance, hvalid, hrank⟩ | ⟨hadvance, hrank⟩
    · refine .inl ⟨i :: cursor', by rw [hadvance]; rfl, .cons hi hvalid, ?_⟩
      rw [rank, rank, hrank, Nat.add_assoc]
    · -- The indices to the right turn over, so this one carries.
      have hcarry : (i + 1) * product axes = i * product axes + rank axes cursor + 1 := by
        rw [Nat.succ_mul, ← hrank, Nat.add_assoc]
      by_cases hlast : i + 1 < a.values.length
      · refine .inl ⟨(i + 1) :: List.replicate axes.length 0, ?_,
          .cons hlast (Valid.zeros (Valid.values_ne_nil hrest)), ?_⟩
        · simp only [hadvance, Bool.false_eq_true, if_false, hlast, if_true]
        · rw [rank, rank, rank_zeros, Nat.add_zero, hcarry]
      · -- There is nothing to carry to: every index was at its last value.
        have hsize : a.values.length = i + 1 := by omega
        refine .inr ⟨?_, ?_⟩
        · simp only [hadvance, Bool.false_eq_true, if_false, hlast]
          rfl
        · rw [rank, product, hsize, hcarry]

end Odometer

end ScriptMatrix
