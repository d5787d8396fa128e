import ScriptMatrix.Proofs.Axis.Product

/-!
# `ScriptMatrix.Proofs.Axis.Enumeration`: an odometer lists the product

`Odometer.after` is a fresh odometer that has been asked a number of times.
`Stands` says where it is then: on the indices of the binding it gave last,
or past the end. One call gives the binding at that place of the product
and moves one place on (`Stands.next`); `after_stands` carries this through
any number of calls.
-/

set_option autoImplicit false

namespace ScriptMatrix

namespace Odometer

/-- A fresh odometer of an axis set that has been asked `k` times. A state that a program
can reach is one of these, since nothing but `next` changes an odometer. -/
def after (s : AxisSet) : Nat → Odometer
  | 0 => start s
  | k + 1 => (after s k).next.2

/-- What a fresh odometer of an axis set gives when it has been asked `k`
times before. -/
def answer (s : AxisSet) (k : Nat) : Option Binding := (after s k).next.1

/-- An odometer over some axes that has been asked `k` times: it stands on
the indices of rank `k - 1`, or it has found no binding left. -/
inductive Stands (axes : List Axis) : Nat → Odometer → Prop
  | fresh (remaining : Option Nat) : Stands axes 0 ⟨axes, .fresh, remaining⟩
  | running (cursor : List Nat) (remaining : Option Nat) (hvalid : Valid axes cursor) :
      Stands axes (rank axes cursor + 1) ⟨axes, .running cursor, remaining⟩
  | done (k : Nat) (remaining : Option Nat) (hpast : product axes < k) :
      Stands axes k ⟨axes, .done, remaining⟩

/-- `giveAt` on valid indices gives the binding at their rank and leaves an odometer that
stands on them. Both ways for `next` to give a binding end here: the zeros of the first
call, and the indices that a step has led to. -/
theorem Stands.giveAt {axes : List Axis} {cursor : List Nat} (hvalid : Valid axes cursor)
    (position : Position) (remaining : Option Nat) :
    (giveAt ⟨axes, position, remaining⟩ cursor).1
        = (emit axes)[rank axes cursor]?.map Binding.mk ∧
      Stands axes (rank axes cursor + 1) (giveAt ⟨axes, position, remaining⟩ cursor).2 := by
  refine ⟨?_, .running cursor _ hvalid⟩
  rw [getElem?_emit_rank hvalid, Option.map_some]
  rfl

/-- Past the end there is nothing in the product, which is what a call has to answer there. -/
theorem emit_past {axes : List Axis} {k : Nat} (h : product axes ≤ k) :
    (emit axes)[k]?.map Binding.mk = none := by
  rw [List.getElem?_eq_none (by rw [length_emit]; exact h), Option.map_none]

/-- **One call.** It gives the binding at place `k` of the product, if there is one, and the
odometer stands one place further. The cases are the three positions. A fresh one may find
an axis without values, a running one the last indices, and both are `done` from then on. -/
theorem Stands.next {axes : List Axis} {k : Nat} {o : Odometer} (h : Stands axes k o) :
    o.next.1 = (emit axes)[k]?.map Binding.mk ∧ Stands axes (k + 1) o.next.2 := by
  cases h with
  | fresh remaining =>
    -- A fresh odometer is done at once if the product is empty.
    by_cases hempty : axes.any (·.values.isEmpty)
    · have hproduct : product axes = 0 := product_eq_zero.mpr (by simpa using hempty)
      have hnext : Odometer.next ⟨axes, .fresh, remaining⟩ = (none, ⟨axes, .done, remaining⟩) :=
        if_pos hempty
      rw [hnext]
      exact ⟨(emit_past (Nat.le_of_eq hproduct)).symm, .done _ _ (by omega)⟩
    · have hvalid : Valid axes (List.replicate axes.length 0) :=
        Valid.zeros (by simpa using hempty)
      have hnext : Odometer.next ⟨axes, .fresh, remaining⟩
          = Odometer.giveAt ⟨axes, .fresh, remaining⟩ (List.replicate axes.length 0) :=
        if_neg hempty
      have hgive := Stands.giveAt hvalid .fresh remaining
      rw [rank_zeros] at hgive
      rw [hnext]
      exact hgive
  | running cursor remaining hvalid =>
    -- Either the indices step to the next rank, or this was the last one.
    rcases advance_cases hvalid with ⟨cursor', hadvance, hvalid', hrank⟩ | ⟨hadvance, hrank⟩
    · have hnext : Odometer.next ⟨axes, .running cursor, remaining⟩
          = Odometer.giveAt ⟨axes, .running cursor, remaining⟩ cursor' := by
        simp only [Odometer.next, hadvance]
      rw [hnext, ← hrank]
      exact Stands.giveAt hvalid' _ _
    · have hnext : Odometer.next ⟨axes, .running cursor, remaining⟩
          = (none, ⟨axes, .done, remaining⟩) := by
        simp only [Odometer.next, hadvance, Odometer.finish]
      rw [hnext]
      exact ⟨(emit_past (Nat.le_of_eq hrank.symm)).symm, .done _ _ (by omega)⟩
  | done k remaining hpast =>
    -- Once done, the place is behind the product, and stays there.
    exact ⟨(emit_past (Nat.le_of_lt hpast)).symm, .done _ _ (Nat.lt_succ_of_lt hpast)⟩

/-- An odometer that has been asked `k` times stands at place `k`: the run lemma for
`Stands.next`. -/
theorem after_stands (s : AxisSet) (k : Nat) : Stands s.axes k (after s k) := by
  induction k with
  | zero => exact .fresh _
  | succ k ih => exact ih.next.2

/-- Asking several times in a row gives what is left of the product from where the odometer
stands. `AxisSet.bindings` asks as often as the product has bindings, so this is for
`bindings_eq_emit`. -/
theorem Stands.take {axes : List Axis} {k : Nat} {o : Odometer} (h : Stands axes k o) (n : Nat) :
    o.take n = (((emit axes).drop k).take n).map Binding.mk := by
  induction n generalizing k o with
  | zero => rfl
  | succ n ih =>
    obtain ⟨hgiven, hstands⟩ := h.next
    rw [Odometer.take]
    generalize hnext : o.next = next at hgiven hstands
    obtain ⟨b, o'⟩ := next
    -- The call gives a binding or not as the product has one at place `k`.
    cases hk : (emit axes)[k]? with
    | none =>
      rw [hk, Option.map_none] at hgiven
      subst hgiven
      rw [List.drop_eq_nil_of_le (List.getElem?_eq_none_iff.mp hk)]
      rfl
    | some entries =>
      rw [hk, Option.map_some] at hgiven
      subst hgiven
      obtain ⟨hlt, hentries⟩ := List.getElem?_eq_some_iff.mp hk
      rw [List.drop_eq_getElem_cons hlt, hentries, List.take_succ_cons, List.map_cons]
      exact congrArg _ (ih hstands)

/-- The list of all bindings of an axis set, which lists and renders go through, is the
product of its axes. -/
theorem bindings_eq_emit (s : AxisSet) : s.bindings = (emit s.axes).map Binding.mk := by
  have hfresh : Stands s.axes 0 ⟨s.axes, .fresh, s.bindingCount⟩ := .fresh s.bindingCount
  have htake := hfresh.take (product s.axes)
  rw [List.drop_zero, List.take_of_length_le (Nat.le_of_eq (length_emit s.axes))] at htake
  exact htake

/-- **An odometer lists the product.** Each call gives the next binding of
the recursive product and calls past its end give none. The product has as
many bindings as its sizes multiply to, one for every vector of indices in
lexicographic order; without axes it is one empty binding, and it is empty
just if an axis is. -/
theorem answer_eq_emit (s : AxisSet) :
    (∀ k, answer s k = (emit s.axes)[k]?.map Binding.mk) ∧
    (emit s.axes).length = s.sizes.prod ∧
    emit s.axes = (indexVectors s.axes).map (fun cursor => (select s.axes cursor).entries) ∧
    (indexVectors s.axes).Pairwise (· < ·) ∧
    (∀ cursor, cursor ∈ indexVectors s.axes ↔ Valid s.axes cursor) ∧
    emit AxisSet.empty.axes = [[]] ∧
    (emit s.axes = [] ↔ ∃ a ∈ s.axes, a.values = []) := by
  refine ⟨fun k => (after_stands s k).next.1, ?_, emit_eq_select s.axes,
    indexVectors_sorted s.axes, fun cursor => mem_indexVectors, rfl, ?_⟩
  · rw [length_emit, product_eq_prod, AxisSet.sizes]
  · rw [← List.length_eq_zero_iff, length_emit, product_eq_zero]

end Odometer

end ScriptMatrix
