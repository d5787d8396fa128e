import Mathlib.Algebra.BigOperators.Group.Finset.Basic
import ScriptMatrix.Proofs.Axis.Enumeration

/-!
# `ScriptMatrix.Proofs.Axis.Digits`: the digits of a place in the product

A place in the product of some axes is a number, and the indices there are
its digits. The digit of an axis counts for the product of the sizes behind
that axis (`rank_eq_sum`), and dividing by this product and taking the
remainder by the size of the axis gives it back (`Valid.eq_digit`).

`advanceInPlace` makes a step the way an odometer with wheels does: from the
last axis to the first it turns one index on or back to zero, and stops at the
first one that is turned on. `advanceInPlace_eq` says that this is `advance`.
`advance_adds_one` puts it together: a step adds one, an odometer that runs
stands on valid indices, and the binding that call `k` gives is read off the
digits of `k - 1`.
-/

set_option autoImplicit false

namespace ScriptMatrix

namespace Odometer

/-! ### A step in place -/

/-- A step that goes through the first `depth` axes from the last of them to the first. It
is a loop on one vector of indices, where `advance` builds the indices anew from the right. -/
def advanceInPlace (axes : List Axis) : Nat → List Nat → Bool × List Nat
  | 0, cursor => (false, cursor)
  | depth + 1, cursor =>
    let i := cursor.getD depth 0 + 1
    if i < (axes.getD depth ⟨"", []⟩).values.length then (true, cursor.set depth i)
    else advanceInPlace axes depth (cursor.set depth 0)

/-- An axis in front has its turn when all others have turned over. So the loop, which goes
from right to left, can be taken apart on the left, as `advance` is defined. -/
theorem advanceInPlace_cons (a : Axis) (axes : List Axis) (depth i : Nat) (cursor : List Nat) :
    advanceInPlace (a :: axes) (depth + 1) (i :: cursor) =
      if (advanceInPlace axes depth cursor).1 then
        (true, i :: (advanceInPlace axes depth cursor).2)
      else if i + 1 < a.values.length then
        (true, (i + 1) :: (advanceInPlace axes depth cursor).2)
      else (false, 0 :: (advanceInPlace axes depth cursor).2) := by
  induction depth generalizing cursor with
  | zero => rfl
  | succ depth ih =>
    -- The last axis is the same one for both, and so is whether its index turns over.
    rw [show advanceInPlace axes (depth + 1) cursor = _ from advanceInPlace.eq_2 axes cursor depth]
    show (if cursor.getD depth 0 + 1 < (axes.getD depth ⟨"", []⟩).values.length then
      (true, i :: cursor.set depth (cursor.getD depth 0 + 1))
      else advanceInPlace (a :: axes) (depth + 1) (i :: cursor.set depth 0)) = _
    split
    · rfl
    · exact ih _

/-- With one index for every axis the step in place is `advance`. The length is all that is
needed: the indices may be too large, and both then turn them over. -/
theorem advanceInPlace_eq {axes : List Axis} {cursor : List Nat}
    (h : cursor.length = axes.length) :
    advanceInPlace axes axes.length cursor = advance axes cursor := by
  induction axes generalizing cursor with
  | nil =>
    rw [List.length_nil, List.length_eq_zero_iff] at h
    rw [h]
    rfl
  | cons a axes ih =>
    obtain ⟨i, cursor, rfl⟩ := List.exists_cons_of_length_eq_add_one h
    rw [List.length_cons, advanceInPlace_cons, ih (Nat.succ.inj h), advance]

/-! ### Digits -/

section
variable {axes : List Axis} {cursor : List Nat} {a : Axis} {d i : Nat}

/-- The rank as a sum over the axes. The index of axis `d` counts for the product of the
sizes behind it, its weight in the mixed radix. -/
theorem rank_eq_sum (h : Valid axes cursor) :
    rank axes cursor =
      ∑ d ∈ Finset.range axes.length, cursor.getD d 0 * product (axes.drop (d + 1)) := by
  induction h with
  | nil => rfl
  | cons hi hrest ih =>
    -- The first axis is the term at zero, which `sum_range_succ'` splits off.
    rw [rank, ih, List.length_cons, Finset.sum_range_succ', Nat.add_comm]
    rfl

/-- The weight of an axis, times its size, divides the whole product. In `Valid.eq_digit` it
makes the first index vanish from the digits behind it. -/
theorem product_drop_dvd (ha : axes[d]? = some a) :
    product (axes.drop (d + 1)) * a.values.length ∣ product axes := by
  induction axes generalizing d with
  | nil => cases ha
  | cons a' axes ih =>
    rw [product]
    cases d with
    | zero =>
      cases ha
      exact dvd_of_eq (Nat.mul_comm ..)
    | succ d => exact Dvd.dvd.mul_left (ih ha) _

/-- Valid indices are the digits of their rank: divide by the weight of the axis and take
the remainder by its size. -/
theorem Valid.eq_digit (h : Valid axes cursor) (ha : axes[d]? = some a) :
    cursor[d]? = some (rank axes cursor / product (axes.drop (d + 1)) % a.values.length) := by
  induction h generalizing d with
  | nil => cases ha
  | cons hi hrest ih =>
    rename_i a' i axes cursor
    have hlt : rank axes cursor < product axes := Valid.rank_lt hrest
    rw [rank]
    cases d with
    | zero =>
      cases ha
      -- What stands behind the first index is less than its weight, so the division drops
      -- it.
      have hdigit : (i * product axes + rank axes cursor) / product axes = i := by
        rw [Nat.mul_comm, Nat.mul_add_div (Nat.zero_lt_of_lt hlt), Nat.div_eq_of_lt hlt,
          Nat.add_zero]
      rw [List.drop_one, List.tail_cons, hdigit, Nat.mod_eq_of_lt hi]
      rfl
    | succ d =>
      -- What the first index counts for is a multiple of all that the digit at `d` depends on.
      rw [List.getElem?_cons_succ] at ha ⊢
      obtain ⟨n, hn⟩ := Dvd.dvd.mul_left (product_drop_dvd ha) i
      rw [ih ha, List.drop_succ_cons, hn, ← Nat.mod_mul_right_div_self,
        ← Nat.mod_mul_right_div_self, Nat.mul_add_mod]

/-- Each valid index selects one of the values of its axis, so no index of `select` runs
past its list and the standard value of `getD` is never used. -/
theorem Valid.select_entry (h : Valid axes cursor) (ha : axes[d]? = some a)
    (hi : cursor[d]? = some i) :
    ∃ v, a.values[i]? = some v ∧ (select axes cursor).entries[d]? = some (a.name, v) := by
  induction h generalizing d with
  | nil => cases ha
  | cons hlt _ ih =>
    cases d with
    | zero =>
      cases ha
      cases hi
      refine ⟨_, List.getElem?_eq_getElem hlt, ?_⟩
      rw [← List.getD_eq_getElem _ "" hlt]
      rfl
    | succ d => exact ih ha hi

end

/-! ### Where an odometer stands -/

section
variable {axes : List Axis} {k : Nat} {o : Odometer}

/-- An odometer that runs after `k` calls stands on valid indices of rank `k - 1`, those of
the binding it has given last. -/
theorem Stands.of_running {cursor : List Nat} (h : Stands axes k o)
    (hposition : o.position = .running cursor) : Valid axes cursor ∧ rank axes cursor + 1 = k := by
  cases h with
  | fresh _ => cases hposition
  | running cursor _ hvalid =>
    cases hposition
    exact ⟨hvalid, rfl⟩
  | done _ _ _ => cases hposition

/-- An odometer runs from its first call to the last that gives a binding: it is fresh only
before, and done only behind the product. -/
theorem Stands.exists_running (h : Stands axes k o) (hfirst : 1 ≤ k) (hlast : k ≤ product axes) :
    ∃ cursor, o.position = .running cursor := by
  cases h with
  | fresh _ => exact absurd hfirst (by decide)
  | running cursor _ _ => exact ⟨cursor, rfl⟩
  | done _ _ hpast => exact absurd hlast (Nat.not_le.mpr hpast)

end

/-- The binding given last is the one that the indices select. `Stands.of_running` gives its
place, and `getElem?_emit_rank` what stands there. -/
theorem answer_of_running {s : AxisSet} {k : Nat} {cursor : List Nat}
    (h : (after s k).position = .running cursor) :
    answer s (k - 1) = some (select s.axes cursor) := by
  obtain ⟨hvalid, hrank⟩ := (after_stands s k).of_running h
  have hplace : k - 1 = rank s.axes cursor := by omega
  rw [answer, (after_stands s (k - 1)).next.1, hplace, getElem?_emit_rank hvalid]
  rfl

/-- The weight of an axis by the sizes of the axis set, which are what the statement of
`advance_adds_one` speaks of. -/
theorem product_drop (s : AxisSet) (n : Nat) :
    product (s.axes.drop n) = (s.sizes.drop n).prod := by
  rw [product_eq_prod, AxisSet.sizes, List.map_drop]

/-- **A step adds one.** The rank of valid indices is their value in the mixed radix of the
sizes. Below the last rank a step moves to valid indices with the next one, and at the last
it starts over with zeros and says so; the loop from the last axis to the first, in place,
does the same. So whenever an odometer runs its indices are valid and select values that
their axes have. It runs from its first call to the last that gives a binding, and call `k`
gives the value of each axis at the digit that `k - 1` has there. -/
theorem advance_adds_one (s : AxisSet) :
    (∀ cursor, Valid s.axes cursor →
      rank s.axes cursor = ∑ d ∈ Finset.range s.length,
        cursor.getD d 0 * (s.sizes.drop (d + 1)).prod ∧
      (rank s.axes cursor + 1 < s.sizes.prod → ∃ cursor',
        advance s.axes cursor = (true, cursor') ∧ Valid s.axes cursor' ∧
          rank s.axes cursor' = rank s.axes cursor + 1) ∧
      (s.sizes.prod ≤ rank s.axes cursor + 1 →
        advance s.axes cursor = (false, List.replicate s.length 0)) ∧
      advanceInPlace s.axes s.length cursor = advance s.axes cursor) ∧
    (∀ k cursor, (after s k).position = .running cursor →
      Valid s.axes cursor ∧ rank s.axes cursor + 1 = k ∧
      ∀ (d i : Nat) (a : Axis), s.axes[d]? = some a → cursor[d]? = some i → ∃ v,
        a.values[i]? = some v ∧ (select s.axes cursor).entries[d]? = some (a.name, v)) ∧
    ∀ k, 1 ≤ k → k ≤ s.sizes.prod → ∃ b, answer s (k - 1) = some b ∧
      b.entries.length = s.length ∧
      ∀ (d : Nat) (a : Axis), s.axes[d]? = some a → ∃ v,
        a.values[(k - 1) / (s.sizes.drop (d + 1)).prod % a.values.length]? = some v ∧
          b.entries[d]? = some (a.name, v) := by
  have hproduct : product s.axes = s.sizes.prod := product_drop s 0
  refine ⟨fun cursor hvalid => ?_, fun k cursor hrunning => ?_, fun k hfirst hlast => ?_⟩
  · have hlt := hvalid.rank_lt
    refine ⟨?_, fun hbelow => ?_, fun hlast => ?_, advanceInPlace_eq hvalid.length_eq.symm⟩
    · simp only [rank_eq_sum hvalid, product_drop, AxisSet.length]
    · rcases advance_cases hvalid with hnext | ⟨-, hrank⟩
      · exact hnext
      · omega
    · rcases advance_cases hvalid with ⟨cursor', -, hvalid', hrank⟩ | ⟨hadvance, -⟩
      · -- A next rank would have to be below the product, which has ended.
        have hlt' := hvalid'.rank_lt
        omega
      · exact hadvance
  · obtain ⟨hvalid, hrank⟩ := (after_stands s k).of_running hrunning
    exact ⟨hvalid, hrank, fun d i a ha hi => hvalid.select_entry ha hi⟩
  · obtain ⟨cursor, hrunning⟩ := (after_stands s k).exists_running hfirst (hproduct ▸ hlast)
    obtain ⟨hvalid, hrank⟩ := (after_stands s k).of_running hrunning
    have hplace : rank s.axes cursor = k - 1 := by omega
    refine ⟨_, answer_of_running hrunning, ?_, fun d a ha => ?_⟩
    · have hlength := hvalid.length_eq
      simp [select, hlength, AxisSet.length]
    · refine hvalid.select_entry ha ?_
      rw [hvalid.eq_digit ha, hplace, product_drop]

/-- `advance_adds_one` where two indices turn over and the first one is turned on, at the last
indices of all, and for the binding that the seventh call gives. -/
theorem advance_adds_one_carrying :
    let s : AxisSet := ⟨[⟨"a", ["1", "2"]⟩, ⟨"b", ["x", "y", "z"]⟩, ⟨"c", ["u", "v"]⟩]⟩
    Valid s.axes [0, 2, 1] ∧ Valid s.axes [1, 2, 1] ∧
      rank s.axes [0, 2, 1] + 1 < s.sizes.prod ∧ s.sizes.prod ≤ rank s.axes [1, 2, 1] + 1 ∧
      (∃ cursor', advance s.axes [0, 2, 1] = (true, cursor') ∧ Valid s.axes cursor' ∧
        rank s.axes cursor' = 6) ∧
      advance s.axes [1, 2, 1] = (false, [0, 0, 0]) ∧
      1 ≤ 7 ∧ 7 ≤ s.sizes.prod ∧ (after s 7).position = .running [1, 0, 0] ∧
      Valid s.axes [1, 0, 0] ∧ s.axes[1]? = some ⟨"b", ["x", "y", "z"]⟩ ∧
      ∃ b, answer s 6 = some b ∧
        ∃ v, ["x", "y", "z"][6 / 2 % 3]? = some v ∧ b.entries[1]? = some ("b", v) := by
  intro s
  have hmiddle : Valid s.axes [0, 2, 1] :=
    .cons (by decide) (.cons (by decide) (.cons (by decide) .nil))
  have hlast : Valid s.axes [1, 2, 1] :=
    .cons (by decide) (.cons (by decide) (.cons (by decide) .nil))
  have hrunning : (after s 7).position = .running [1, 0, 0] := by decide
  have haxis : s.axes[1]? = some ⟨"b", ["x", "y", "z"]⟩ := rfl
  obtain ⟨hstep, hstands, hgives⟩ := advance_adds_one s
  obtain ⟨b, hb, -, hentries⟩ := hgives 7 (by decide) (by decide)
  exact ⟨hmiddle, hlast, by decide, by decide, (hstep _ hmiddle).2.1 (by decide),
    (hstep _ hlast).2.2.1 (by decide), by decide, by decide, hrunning, (hstands 7 _ hrunning).1,
    haxis, b, hb, hentries 1 _ haxis⟩

end Odometer

end ScriptMatrix
