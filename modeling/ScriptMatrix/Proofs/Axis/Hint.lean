import ScriptMatrix.Proofs.Axis.Count

/-!
# `ScriptMatrix.Proofs.Axis.Hint`: bounds on what is still to come

`Odometer.left` is how many bindings an odometer will still give
(`isSome_answer_add_iff`), and `Odometer.sizeHint` are bounds on that number.
After any number of calls they are read off the count of the axis set and
the number of calls alone (`sizeHint_after`): the number itself as long as
there is a count, zero at the end, and in between `countBound - 1` with no
upper bound where there is no count.

That last answer does not change while bindings are given. So it is no lower
bound any more once fewer than `countBound - 1` bindings are to come, and
never was one for a set that hides an empty axis. `sizeHint_sound_iff` says
that it is wrong nowhere else.

Where there is a count, the counter is the number of bindings that are left in
every state, also past the end (`remaining_eq_left`). So the bounds are that
number, and no call counts down from zero (`sizeHint_exact`).
-/

set_option autoImplicit false

namespace ScriptMatrix

namespace Scripts

/-- A run through the scripts of a matrix that has been asked `k` times, the
`Odometer.after` of scripts. -/
def after (m : Matrix) : Nat → Scripts
  | 0 => start m
  | k + 1 => (after m k).next.2

/-- What a run gives when it has been asked `k` times before. -/
def answer (m : Matrix) (k : Nat) : Option Script := (after m k).next.1

/-- A run holds its matrix and an odometer that has been asked as often. So what is known of
`Odometer.after` is known of runs, and the other lemmas on `Scripts` only say this for one
of their parts. -/
theorem after_eq (m : Matrix) (k : Nat) : after m k = ⟨m, Odometer.after m.axes k⟩ := by
  induction k with
  | zero => rfl
  | succ k ih => rw [after, ih]; rfl

/-- A run gives the script of each binding, in the order of the bindings. -/
theorem answer_eq (m : Matrix) (k : Nat) :
    answer m k = (Odometer.answer m.axes k).map m.script := by
  rw [answer, after_eq]
  rfl

/-- A run passes on the bounds of its odometer, so what `sizeHint_sound_iff` and
`sizeHint_exact` say of scripts is what they say of bindings. -/
theorem sizeHint_after (m : Matrix) (k : Nat) :
    (after m k).sizeHint = (Odometer.after m.axes k).sizeHint := by
  rw [after_eq]
  rfl

/-- A run gives a script as long as its odometer gives a binding, so as many scripts as
bindings are still to come. -/
theorem isSome_answer (m : Matrix) (k : Nat) :
    (answer m k).isSome = (Odometer.answer m.axes k).isSome := by
  rw [answer_eq, Option.isSome_map]

end Scripts

namespace Odometer

section
variable {axes : List Axis} {k : Nat} {o : Odometer}

/-- All but `k` bindings of the product are left to an odometer at place `k`. Past the end
the difference of numbers is zero, as it should be. -/
theorem Stands.left (h : Stands axes k o) : o.left = product axes - k := by
  cases h with
  | fresh remaining => rfl
  | running cursor remaining hvalid => rfl
  | done k remaining hpast => exact (Nat.sub_eq_zero_of_le (Nat.le_of_lt hpast)).symm

/-- An odometer has ended once it has been asked more often than there are bindings. After
the last binding it is not `done`: it takes one more call to find that out. -/
theorem Stands.position_eq_done_iff (h : Stands axes k o) :
    o.position = .done ↔ product axes < k := by
  cases h with
  | fresh remaining => simp
  | running cursor remaining hvalid =>
    have hlt := hvalid.rank_lt
    exact ⟨fun h => (by cases h), fun hpast => absurd hlt (by omega)⟩
  | done k remaining hpast => exact ⟨fun _ => hpast, fun _ => rfl⟩

/-- A call gives a binding until the whole product has been given. -/
theorem Stands.isSome_next_iff (h : Stands axes k o) : o.next.1.isSome ↔ k < product axes := by
  rw [h.next.1, Option.isSome_map, isSome_getElem?, length_emit]

end

/-- What a call does to the counter: by `giveAt` it puts the odometer on some indices, and
counts down, or it gives nothing and leaves the counter. This goes through the branches of
`next` once and for all. -/
theorem next_cases (o : Odometer) :
    (∃ cursor, o.next = o.giveAt cursor) ∨
      o.next.1 = none ∧ o.next.2.remaining = o.remaining := by
  unfold next
  split
  · exact .inr ⟨rfl, rfl⟩
  · split
    · exact .inr ⟨rfl, rfl⟩
    · exact .inl ⟨_, rfl⟩
  · split
    · exact .inl ⟨_, rfl⟩
    · exact .inr ⟨rfl, rfl⟩

/-- A call counts down just if it gives a binding. The subtraction stops at zero, but
`counted_down` says that it is never needed to. -/
theorem remaining_next (o : Odometer) :
    o.next.2.remaining = if o.next.1.isSome then o.remaining.map (· - 1) else o.remaining := by
  rcases o.next_cases with ⟨cursor, hgive⟩ | ⟨hnone, hsame⟩
  · rw [hgive]
    rfl
  · rw [hnone, hsame]
    rfl

/-- The counter after `k` calls is the count less the bindings given. These are `k` of them,
or the whole product if that is less. -/
theorem remaining_after (s : AxisSet) (k : Nat) :
    (after s k).remaining = s.bindingCount.map (· - min k (product s.axes)) := by
  induction k with
  | zero =>
    show s.bindingCount = _
    simp
  | succ k ih =>
    have hgives := (after_stands s k).isSome_next_iff
    rw [after, remaining_next, ih]
    split
    · rename_i hsome
      have hlt := hgives.mp hsome
      -- One binding more has been given, since the product has not ended.
      rw [Option.map_map]
      congr 1
      funext n
      show n - min k _ - 1 = n - min (k + 1) _
      omega
    · rename_i hnone
      have hpast : product s.axes ≤ k := Nat.le_of_not_lt fun hlt => hnone (hgives.mpr hlt)
      rw [Nat.min_eq_right hpast, Nat.min_eq_right (Nat.le_succ_of_le hpast)]

/-- A count that is there is the size of the product, in the form in which `Stands` speaks
of it. -/
theorem bindingCount_eq_product {s : AxisSet} {n : Nat} (h : s.bindingCount = some n) :
    n = product s.axes := by
  rw [((s.bindingCount_eq_some_iff n).mp h).2, product_eq_prod, AxisSet.sizes]

/-- Before its end an odometer answers what its counter says. Without a counter this is the
largest number as lower bound, with no upper bound. -/
theorem sizeHint_of_ne_done {o : Odometer} (h : o.position ≠ .done) :
    o.sizeHint = match o.remaining with
      | some n => (n, some n)
      | none => (countBound - 1, none) := by
  unfold sizeHint
  split
  · rename_i hdone
    exact absurd hdone h
  · rename_i hn _
    rw [hn]
  · rename_i hn _
    rw [hn]

/-- The bounds after `k` calls by the count and `k` alone. `sizeHint_sound_iff` and
`sizeHint_exact` read off all that they say about bounds here. -/
theorem sizeHint_after (s : AxisSet) (k : Nat) :
    (after s k).sizeHint =
      if product s.axes < k then (0, some 0)
      else match s.bindingCount with
        | some _ => (product s.axes - k, some (product s.axes - k))
        | none => (countBound - 1, none) := by
  have hdone := (after_stands s k).position_eq_done_iff
  by_cases hpast : product s.axes < k
  · rw [if_pos hpast, sizeHint, hdone.mpr hpast]
  · -- Up to the end every call has given a binding, so nothing is cut off by the minimum.
    have hle : k ≤ product s.axes := Nat.le_of_not_lt hpast
    rw [if_neg hpast, sizeHint_of_ne_done fun h => hpast (hdone.mp h), remaining_after,
      Nat.min_eq_left hle]
    cases hcount : s.bindingCount with
    | none => rfl
    | some n => rw [Option.map_some, bindingCount_eq_product hcount]

/-- What is left is what further calls give: the call behind `j` more is answered just if
more than `j` bindings are left. So `left` is no number of the model only, but the number of
items still to come. -/
theorem isSome_answer_add_iff (s : AxisSet) (k j : Nat) :
    (answer s (k + j)).isSome ↔ j < (after s k).left := by
  rw [answer, (after_stands s (k + j)).isSome_next_iff, (after_stands s k).left]
  omega

/-- **Where the bounds are right.** After any number of calls the upper bound,
if there is one, is at least the number of bindings still to come. The lower
bound is at most that number just if the bindings are counted, or the run has
come to its end, or `countBound - 1` bindings are still to come. Where they
are counted, both bounds are the number itself. The scripts of a matrix have
the same bounds, and as many of them are still to come. -/
theorem sizeHint_sound_iff (s : AxisSet) (k : Nat) :
    (∀ j, (answer s (k + j)).isSome ↔ j < (after s k).left) ∧
    (∀ upper, (after s k).sizeHint.2 = some upper → (after s k).left ≤ upper) ∧
    ((after s k).sizeHint.1 ≤ (after s k).left ↔
      s.bindingCount.isSome ∨ product s.axes < k ∨ countBound - 1 ≤ (after s k).left) ∧
    (s.bindingCount.isSome → (after s k).sizeHint = ((after s k).left, some (after s k).left)) ∧
    (∀ m : Matrix, m.axes = s → (Scripts.after m k).sizeHint = (after s k).sizeHint ∧
      ∀ j, (Scripts.answer m (k + j)).isSome ↔ j < (after s k).left) := by
  have hleft := (after_stands s k).left
  have hmatrix : ∀ m : Matrix, m.axes = s →
      (Scripts.after m k).sizeHint = (after s k).sizeHint ∧
        ∀ j, (Scripts.answer m (k + j)).isSome ↔ j < (after s k).left := by
    rintro m rfl
    refine ⟨Scripts.sizeHint_after m k, fun j => ?_⟩
    rw [Scripts.isSome_answer, isSome_answer_add_iff]
  refine ⟨isSome_answer_add_iff s k, ?_, ?_, ?_, hmatrix⟩
  all_goals rw [sizeHint_after, hleft]
  · -- There is an upper bound at the end, which is zero, and where there is a count.
    intro upper hupper
    split at hupper
    · cases hupper
      omega
    · split at hupper
      · cases hupper
        exact Nat.le_refl _
      · cases hupper
  · split
    · rename_i hpast
      exact ⟨fun _ => .inr (.inl hpast), fun _ => Nat.zero_le _⟩
    · -- Before the end the lower bound is exact with a count, and a constant without one.
      rename_i hpast
      cases s.bindingCount with
      | some n => simp
      | none => simp [hpast]
  · intro hcount
    obtain ⟨n, hn⟩ := Option.isSome_iff_exists.mp hcount
    rw [hn]
    split
    · rename_i hpast
      rw [Nat.sub_eq_zero_of_le (Nat.le_of_lt hpast)]
    · rfl

/-- The product of 64 axes of two values is too large to be counted. After two
calls two bindings less than `countBound` are to come, but the lower bound
still says that there are `countBound - 1`. -/
theorem sizeHint_not_counted_down :
    let s : AxisSet := ⟨List.replicate 64 ⟨"a", ["0", "1"]⟩⟩
    (∀ j, (answer s (2 + j)).isSome ↔ j < countBound - 2) ∧
      (after s 2).sizeHint = (countBound - 1, none) := by
  intro s
  have hleft : (after s 2).left = countBound - 2 := by decide +kernel
  refine ⟨fun j => hleft ▸ isSome_answer_add_iff s 2 j, by decide +kernel⟩

/-! ### Counted products -/

section
variable {s : AxisSet} {n : Nat}

/-- With a count, all but the bindings given are left. `Stands.left` says so by the product. -/
theorem left_of_count (h : s.bindingCount = some n) (k : Nat) : (after s k).left = n - k := by
  rw [(after_stands s k).left, bindingCount_eq_product h]

/-- With a count, the counter is the number of bindings that are left, also past the end.
This is the invariant that `counted_down` and `sizeHint_exact` are about. -/
theorem remaining_eq_left (h : s.bindingCount = some n) (k : Nat) :
    (after s k).remaining = some (after s k).left := by
  -- Past the end both sides are zero.
  have hcapped : n - min k n = n - k := by omega
  rw [remaining_after, h, Option.map_some, left_of_count h, ← bindingCount_eq_product h, hcapped]

/-- The counter is never at zero when a binding is given, and so it really goes down by one.
A binding that is given was left before, and the counter counts those. -/
theorem counted_down (h : s.bindingCount = some n) {k : Nat} {b : Binding}
    (hb : answer s k = some b) :
    ∃ r, (after s k).remaining = some (r + 1) ∧ (after s (k + 1)).remaining = some r := by
  have hgives : 0 < (after s k).left :=
    (isSome_answer_add_iff s k 0).mp (by rw [Nat.add_zero, hb]; rfl)
  have hleft := left_of_count h k
  have hnext := left_of_count h (k + 1)
  refine ⟨(after s (k + 1)).left, ?_, remaining_eq_left h (k + 1)⟩
  rw [remaining_eq_left h k]
  congr 1
  omega

/-- A call that gives no binding leaves the counter. It holds with and without a count. -/
theorem remaining_of_answer_eq_none {k : Nat} (hnone : answer s k = none) :
    (after s (k + 1)).remaining = (after s k).remaining := by
  have hgiven : (after s k).next.1 = none := hnone
  rw [after, remaining_next, hgiven]
  rfl

/-- **A count is kept exactly.** Take axes whose product is counted, and any number of calls.
Both bounds are then the count less the calls, and zero past the end, and so many bindings
are still to come. Whenever a binding is given the counter goes down by one, from at least
one; otherwise it stays. A run through the scripts of a matrix has the same bounds, and as
many scripts are still to come. -/
theorem sizeHint_exact (h : s.bindingCount = some n) (k : Nat) :
    (k ≤ n → (after s k).sizeHint = (n - k, some (n - k))) ∧
    (n < k → (after s k).sizeHint = (0, some 0)) ∧
    (∀ j, (answer s (k + j)).isSome ↔ j < n - k) ∧
    (∀ b, answer s k = some b →
      ∃ r, (after s k).remaining = some (r + 1) ∧ (after s (k + 1)).remaining = some r) ∧
    (answer s k = none → (after s (k + 1)).remaining = (after s k).remaining) ∧
    ∀ m : Matrix, m.axes = s → (Scripts.after m k).sizeHint = (after s k).sizeHint ∧
      ∀ j, (Scripts.answer m (k + j)).isSome ↔ j < n - k := by
  have hproduct := bindingCount_eq_product h
  have hcome : ∀ j, (answer s (k + j)).isSome ↔ j < n - k := fun j => by
    rw [isSome_answer_add_iff, left_of_count h]
  refine ⟨fun hle => ?_, fun hpast => ?_, hcome, fun b hb => counted_down h hb,
    remaining_of_answer_eq_none, ?_⟩
  · rw [sizeHint_after, ← hproduct, if_neg (Nat.not_lt.mpr hle), h]
  · rw [sizeHint_after, ← hproduct, if_pos hpast]
  · rintro m rfl
    refine ⟨Scripts.sizeHint_after m k, fun j => ?_⟩
    rw [Scripts.isSome_answer, hcome]

end

/-- `sizeHint_exact` in the middle of a product of two axes, with the counter there and
behind the next call. -/
theorem sizeHint_exact_midway :
    let s : AxisSet := ⟨[⟨"a", ["1", "2"]⟩, ⟨"b", ["x", "y", "z"]⟩]⟩
    s.bindingCount = some 6 ∧ 2 ≤ 6 ∧ (after s 2).sizeHint = (4, some 4) ∧
      answer s 2 = some ⟨[("a", "1"), ("b", "z")]⟩ ∧
      ∃ r, (after s 2).remaining = some (r + 1) ∧ (after s 3).remaining = some r := by
  intro s
  have hcount : s.bindingCount = some 6 := by decide
  have hb : answer s 2 = some ⟨[("a", "1"), ("b", "z")]⟩ := by decide
  obtain ⟨hhint, -, -, hdown, -⟩ := sizeHint_exact hcount 2
  exact ⟨hcount, by decide, hhint (by decide), hb, hdown _ hb⟩

end Odometer

end ScriptMatrix
