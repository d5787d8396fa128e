import Mathlib.Algebra.BigOperators.Group.List.Basic
import Mathlib.Data.List.Infix
import ScriptMatrix.Matrix
import ScriptMatrix.Proofs.Axis.Enumeration

/-!
# `ScriptMatrix.Proofs.Axis.Count`: the count of an axis set

`AxisSet.bindingCount` multiplies the sizes up from the front and gives up
as soon as a product is too large. It so gives a count just if the sizes
in front multiply to one at every place (`bindingCount_eq_some_iff`).

As long as no size is zero, no product in front exceeds the whole one, and
the count is there whenever the whole product can be counted. A zero that
comes too late is not seen: `HidesEmptyAxis` are the sets with no bindings
at all that are said to have too many. `bindingCount_exact` says that these
are the only ones with a wrong count.
-/

set_option autoImplicit false

namespace ScriptMatrix

/-- Counts are multiplied up to the end just if every product on the way can be counted,
that is, every `front` of the sizes times what there was before. The accumulator `acc` is
arbitrary for the induction; a count begins with one. -/
theorem foldlM_mulCount?_eq_some_iff (sizes : List Nat) {acc n : Nat} (hacc : acc < countBound) :
    sizes.foldlM mulCount? acc = some n ↔
      (∀ front, front <+: sizes → acc * front.prod < countBound) ∧ n = acc * sizes.prod := by
  induction sizes generalizing acc with
  | nil => simp [hacc, eq_comm]
  | cons size sizes ih =>
    rw [List.foldlM_cons, mulCount?]
    by_cases hsize : acc * size < countBound
    · rw [if_pos hsize]
      show sizes.foldlM mulCount? (acc * size) = some n ↔ _
      rw [ih hsize, List.prod_cons, Nat.mul_assoc]
      refine and_congr_left fun _ => ⟨fun h front hfront => ?_, fun h front hfront => ?_⟩
      · -- A front of more than nothing begins with the first size.
        rcases List.prefix_cons_iff.mp hfront with rfl | ⟨rest, rfl, hrest⟩
        · simpa using hacc
        · simpa [Nat.mul_assoc] using h rest hrest
      · simpa [Nat.mul_assoc] using h (size :: front) (List.cons_prefix_cons.mpr ⟨rfl, hfront⟩)
    · rw [if_neg hsize]
      have hfirst : [size] <+: size :: sizes := List.cons_prefix_cons.mpr ⟨rfl, List.nil_prefix⟩
      refine ⟨fun h => (by cases h), fun h => absurd (h.1 [size] hfirst) ?_⟩
      simpa using hsize

namespace AxisSet

/-- The count is there if the sizes in front multiply to a count at every place, and then it
is the product. So a `some` is never wrong, and only a `none` can be. -/
theorem bindingCount_eq_some_iff (s : AxisSet) (n : Nat) :
    s.bindingCount = some n ↔
      (∀ front, front <+: s.sizes → front.prod < countBound) ∧ n = s.sizes.prod := by
  rw [bindingCount, foldlM_mulCount?_eq_some_iff _ (by decide)]
  simp only [Nat.one_mul]

/-- There is no binding, since an axis has no values, but some axes in front multiply to
more than can be counted. The zero of the empty axis comes too late for `bindingCount`,
which has given up before. -/
def HidesEmptyAxis (s : AxisSet) : Prop :=
  s.sizes.prod = 0 ∧ ∃ front, front <+: s.sizes ∧ countBound ≤ front.prod

/-- An empty axis that is hidden leaves no count: the front that is too large is on the way
to the end. -/
theorem HidesEmptyAxis.bindingCount {s : AxisSet} (h : s.HidesEmptyAxis) :
    s.bindingCount = none := by
  obtain ⟨-, front, hfront, hlarge⟩ := h
  refine Option.eq_none_iff_forall_ne_some.mpr fun n hn => ?_
  exact absurd (((s.bindingCount_eq_some_iff n).mp hn).1 front hfront) (Nat.not_lt.mpr hlarge)

/-- Unless an empty axis is hidden, the sizes in front can be counted wherever the whole
product can. The product in front divides the whole one, so it is no larger unless the whole
is zero, and that is the hidden case. -/
theorem front_lt {s : AxisSet} (h : ¬s.HidesEmptyAxis) (hcount : s.sizes.prod < countBound)
    {front : List Nat} (hfront : front <+: s.sizes) : front.prod < countBound := by
  by_contra hlarge
  have hlarge : countBound ≤ front.prod := Nat.le_of_not_lt hlarge
  have hne : s.sizes.prod ≠ 0 := fun hzero => h ⟨hzero, front, hfront, hlarge⟩
  have hdvd : front.prod ∣ s.sizes.prod := by
    obtain ⟨behind, hbehind⟩ := hfront
    exact ⟨behind.prod, by rw [← hbehind, List.prod_append]⟩
  exact absurd (Nat.le_of_dvd (Nat.pos_of_ne_zero hne) hdvd) (by omega)

/-- Unless an empty axis is hidden, `bindingCount` is what one expects of it: the product if
that can be counted, and `none` if not. -/
theorem bindingCount_eq {s : AxisSet} (h : ¬s.HidesEmptyAxis) :
    s.bindingCount = if s.sizes.prod < countBound then some s.sizes.prod else none := by
  split
  · rename_i hcount
    exact (s.bindingCount_eq_some_iff _).mpr ⟨fun _ hfront => front_lt h hcount hfront, rfl⟩
  · rename_i hlarge
    refine Option.eq_none_iff_forall_ne_some.mpr fun n hn => hlarge ?_
    exact ((s.bindingCount_eq_some_iff n).mp hn).1 s.sizes (List.prefix_refl _)

/-- The order of the axes does not matter to the product. It does to `HidesEmptyAxis`, so
`bindingCount_exact` asks of both orders that they hide nothing. -/
theorem prod_sizes_of_perm {s t : AxisSet} (h : t.axes.Perm s.axes) :
    t.sizes.prod = s.sizes.prod :=
  (h.map _).prod_eq

/-- An odometer gives a binding at each call below the product of the sizes, and at no
other. The product is a number without bound here, whether or not it can be counted. -/
theorem isSome_answer_iff (s : AxisSet) (k : Nat) :
    (Odometer.answer s k).isSome ↔ k < s.sizes.prod := by
  rw [Odometer.answer, (Odometer.after_stands s k).next.1, Option.isSome_map, isSome_getElem?,
    length_emit, Odometer.product_eq_prod, sizes]

/-- The list of all bindings is as long as the product of the sizes. With
`bindingCount_eq_some_iff` it is as long as the count says where there is one. -/
theorem length_bindings (s : AxisSet) : s.bindings.length = s.sizes.prod := by
  rw [Odometer.bindings_eq_emit, List.length_map, length_emit, Odometer.product_eq_prod, sizes]

/-- A matrix has no scripts just if the sizes multiply to zero, also where `isEmpty` does
not see it. -/
theorem scripts_eq_nil_iff (m : Matrix) : m.scripts none = [] ↔ m.axes.sizes.prod = 0 := by
  have hall : m.axes.bindings.filter (m.chooses none) = m.axes.bindings :=
    List.filter_eq_self.mpr fun _ _ => rfl
  rw [Matrix.scripts, hall, List.map_eq_nil_iff, ← List.length_eq_zero_iff, length_bindings]

/-- **A count is right unless an empty axis is hidden.** It is the product
of the sizes where that can be counted, and `none` where it cannot, just if
no axis without values stands behind axes that alone are too many to count;
such an axis leaves `none` for the product zero. Otherwise the order of the
axes does not matter. A count that is there is always the number of
bindings. A matrix is empty just if it has no scripts, with the same
exception. -/
theorem bindingCount_exact (s : AxisSet) :
    ((s.bindingCount = if s.sizes.prod < countBound then some s.sizes.prod else none) ↔
      ¬s.HidesEmptyAxis) ∧
    (∀ t : AxisSet, t.axes.Perm s.axes → ¬s.HidesEmptyAxis → ¬t.HidesEmptyAxis →
      t.bindingCount = s.bindingCount) ∧
    (∀ n, s.bindingCount = some n →
      s.bindings.length = n ∧ ∀ k, (Odometer.answer s k).isSome ↔ k < n) ∧
    (∀ m : Matrix, m.axes = s → m.count = s.bindingCount ∧
      ((m.isEmpty = true ↔ m.scripts none = []) ↔ ¬s.HidesEmptyAxis)) := by
  have hzero : ∀ {t : AxisSet}, t.HidesEmptyAxis →
      (if t.sizes.prod < countBound then some t.sizes.prod else none) = some 0 := fun ht => by
    rw [ht.1]
    rfl
  refine ⟨⟨fun h hhidden => ?_, bindingCount_eq⟩, fun t hperm hs ht => ?_, fun n hn => ?_, ?_⟩
  · -- A hidden empty axis leaves `none`, but its product is zero and could be counted.
    rw [hhidden.bindingCount, hzero hhidden] at h
    cases h
  · rw [bindingCount_eq hs, bindingCount_eq ht, prod_sizes_of_perm hperm]
  · obtain ⟨-, rfl⟩ := (s.bindingCount_eq_some_iff n).mp hn
    exact ⟨s.length_bindings, s.isSome_answer_iff⟩
  · rintro m rfl
    refine ⟨rfl, ?_⟩
    rw [scripts_eq_nil_iff, Matrix.isEmpty, Matrix.count, beq_iff_eq]
    -- If an empty axis is hidden there are no scripts, but the matrix does not say so.
    refine ⟨fun h hhidden => ?_, fun h => ?_⟩
    · have hcount := h.mpr hhidden.1
      rw [hhidden.bindingCount] at hcount
      cases hcount
    · rw [bindingCount_eq_some_iff]
      refine ⟨fun hcount => hcount.2.symm, fun hprod => ⟨fun front hfront => ?_, hprod.symm⟩⟩
      exact front_lt h (by rw [hprod]; decide) hfront

/-- `bindingCount_exact` where an axis without values stands behind one
that has some, and in front of it in another order. -/
theorem bindingCount_exact_reordered :
    let s : AxisSet := ⟨[⟨"a", ["1", "2"]⟩, ⟨"b", []⟩, ⟨"c", ["x"]⟩]⟩
    let t : AxisSet := ⟨[⟨"b", []⟩, ⟨"c", ["x"]⟩, ⟨"a", ["1", "2"]⟩]⟩
    t.axes.Perm s.axes ∧ ¬s.HidesEmptyAxis ∧ ¬t.HidesEmptyAxis ∧
      t.bindingCount = s.bindingCount ∧ s.bindingCount = some 0 ∧ s.bindings.length = 0 := by
  intro s t
  have hperm : t.axes.Perm s.axes := by decide
  have hs : ¬s.HidesEmptyAxis := (bindingCount_exact s).1.mp (by decide)
  have ht : ¬t.HidesEmptyAxis := (bindingCount_exact t).1.mp (by decide)
  have hcount : s.bindingCount = some 0 := by decide
  exact ⟨hperm, hs, ht, (bindingCount_exact s).2.1 t hperm hs ht, hcount,
    ((bindingCount_exact s).2.2.1 0 hcount).1⟩

/-- Behind 64 axes of two values an axis without values is not counted:
there are no bindings and no scripts, but the count says that there are too
many, and the matrix does not say that it is empty. With the empty axis in
front the count is zero. -/
theorem bindingCount_late_empty_axis :
    let full : List Axis := List.replicate 64 ⟨"a", ["0", "1"]⟩
    let s : AxisSet := ⟨full ++ [⟨"z", []⟩]⟩
    let m : Matrix := ⟨"m", ⟨"m.ms"⟩, s, .empty, []⟩
    s.sizes.prod = 0 ∧ s.bindingCount = none ∧
      (AxisSet.mk (⟨"z", []⟩ :: full)).bindingCount = some 0 ∧
      m.isEmpty = false ∧ m.scripts none = [] := by
  decide +kernel

end AxisSet

end ScriptMatrix
