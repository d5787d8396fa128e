import Mathlib.Algebra.Group.Nat.Defs
import Mathlib.Order.Bounds.Basic
import ScriptMatrix.Proofs.Files.Unique

/-!
# `ScriptMatrix.Proofs.Files.Counter`: the search for a free name with a 32-bit counter

`FileName.unique` looks at no more numbers than there are paths. A program counts up
instead until it meets a free name, and its counter has 32 bits. `Search` is that loop:
it ends at a free name, and it goes on from a taken one only if the counter does not
overflow. So the loop does not end, or overflows, exactly if there is no `Search`.
`Issue` is one call of the program, and `Issues` are calls one after the other on one set.

`unique_fresh` is the main fact. A call that ends has the result of `FileName.unique`,
since both have the least free number (`Issue.eq_unique`), and `Fresh` says what that is.
The sets are arbitrary: numbered names may be taken in any pattern, and so may names that
are written in other ways. As long as fewer than `2 ^ 31 - 2` paths are taken, a call does
end (`issue_unique`). What carries this is `lt_card_of_taken`: the plain name and the
numbers that the loop has passed are different paths, so the counter stays below the
number of taken paths plus two.
-/

set_option autoImplicit false

namespace ScriptMatrix

namespace FileName

variable {dir : Path} {d : String} {taken : PathSet}

/-! ### The loop -/

/-- The file for a descriptor with the number that a counter shows. Where the counter is not
negative this is `numbered`, by `counted_of_toInt`. -/
def counted (dir : Path) (d : String) (n : Int32) : Path :=
  dir.join (String.ofList (stem d ++ '-' :: (toString n.toInt).toList ++ ".sh".toList))

/-- The loop with the counter at `n` ends with the counter at `m`. It ends at a free
name. At a taken one the counter goes up, and must have room for that. -/
inductive Search (dir : Path) (d : String) (taken : PathSet) : Int32 → Int32 → Prop
  | found {n : Int32} (free : taken.has (counted dir d n) = false) : Search dir d taken n n
  | next {n m : Int32} (hit : taken.has (counted dir d n) = true)
      (room : (n + 1).toInt = n.toInt + 1) (rest : Search dir d taken (n + 1) m) :
      Search dir d taken n m

/-- One call. The plain name is used if it is free, and else the loop starts at two. There
is no constructor for a loop that overflows. -/
inductive Issue (dir : Path) (d : String) (taken : PathSet) : Path → PathSet → Prop
  | plain (free : taken.has (ofDescriptor dir d) = false) :
      Issue dir d taken (ofDescriptor dir d) (taken.insert (ofDescriptor dir d))
  | counted {m : Int32} (hit : taken.has (ofDescriptor dir d) = true)
      (search : Search dir d taken 2 m) :
      Issue dir d taken (counted dir d m) (taken.insert (counted dir d m))

/-- Calls one after the other, each on what is taken after the one before. -/
inductive Issues : PathSet → List (Path × String) → List Path → PathSet → Prop
  | nil {taken : PathSet} : Issues taken [] [] taken
  | cons {dir : Path} {d : String} {taken mid after : PathSet} {calls : List (Path × String)}
      {p : Path} {ps : List Path} (first : Issue dir d taken p mid)
      (rest : Issues mid calls ps after) : Issues taken ((dir, d) :: calls) (p :: ps) after

/-- A counter shows its number, and the file is the one that `numbered` has for it. -/
theorem counted_of_toInt {n : Int32} {i : Nat} (h : n.toInt = i) :
    counted dir d n = numbered dir d i := by
  rw [counted, h]
  rfl

/-- If the loop ends, it has passed taken numbers only, and met a free one. The induction
follows the loop; `room` makes the numbers go up by one in every round. -/
theorem Search.spec {n m : Int32} (h : Search dir d taken n m) {i : Nat} (hn : n.toInt = i) :
    ∃ j : Nat, m.toInt = j ∧ i ≤ j ∧
      (∀ k, i ≤ k → k < j → taken.has (numbered dir d k) = true) ∧
      taken.has (numbered dir d j) = false := by
  induction h generalizing i with
  | found free =>
    rw [counted_of_toInt hn] at free
    exact ⟨i, hn, Nat.le_refl i, fun k hle hlt => absurd hlt (Nat.not_lt.mpr hle), free⟩
  | @next n m hit room rest ih =>
    rw [counted_of_toInt hn] at hit
    have hsucc : (n + 1).toInt = (i + 1 : Nat) := by
      rw [room, hn]
      rfl
    -- The rest of the loop has passed the numbers from `i + 1` on, and `hit` is the one at
    -- `i`.
    obtain ⟨j, hj, hle, hpassed, hfree⟩ := ih hsucc
    refine ⟨j, hj, Nat.le_of_succ_le hle, fun k hik hkj => ?_, hfree⟩
    rcases Nat.eq_or_lt_of_le hik with rfl | hlt
    · exact hit
    · exact hpassed k hlt hkj

/-- If a call ends, it ends with the file of `unique`. Both have the least free number, so
they have the same. -/
theorem Issue.eq_unique {q : Path} {s : PathSet} (h : Issue dir d taken q s) :
    q = (unique dir d taken).1 ∧ s = (unique dir d taken).2 := by
  have hpath : s = taken.insert q ∧ q = (unique dir d taken).1 := by
    cases h with
    | plain free => exact ⟨rfl, (unique_of_free dir d taken free).symm⟩
    | counted hit search =>
      have hstart : (2 : Int32).toInt = (2 : Nat) := rfl
      obtain ⟨j, hj, hle, hpassed, hfree⟩ := search.spec hstart
      obtain ⟨n, hle', -, hpassed', hfree', heq⟩ := unique_of_taken dir d taken hit
      -- Both are the least free number, so neither can be below the other.
      have hsame : j = n := by
        rcases Nat.lt_trichotomy j n with hlt | hsame | hlt
        · exact absurd (hfree.symm.trans (hpassed' j hle hlt)) Bool.false_ne_true
        · exact hsame
        · exact absurd (hfree'.symm.trans (hpassed n hle' hlt)) Bool.false_ne_true
      exact ⟨rfl, by rw [counted_of_toInt hj, hsame, heq]⟩
  obtain ⟨rfl, rfl⟩ := hpath
  exact ⟨rfl, rfl⟩

/-- If calls end, they end with the files of `uniqueEach`, and each is made on the same set. -/
theorem Issues.eq_uniqueEach {taken : PathSet} {calls : List (Path × String)} {qs : List Path}
    {s : PathSet} (h : Issues taken calls qs s) :
    qs = (uniqueEach calls taken).1 ∧ s = (uniqueEach calls taken).2 := by
  induction h with
  | nil => exact ⟨rfl, rfl⟩
  | cons first rest ih =>
    obtain ⟨rfl, rfl⟩ := first.eq_unique
    obtain ⟨rfl, rfl⟩ := ih
    exact ⟨rfl, rfl⟩

/-! ### The counter has room -/

/-- A counter that does not overflow shows the number it was made from. -/
theorem counted_ofNat {n : Nat} (h : n < 2 ^ 31) :
    counted dir d (Int32.ofNat n) = numbered dir d n :=
  counted_of_toInt (Int32.toInt_ofNat_of_lt h)

/-- The loop passes numbers that are taken, and ends at the first that is free. This is the
way back from `Search.spec`, and needs that the last number fits. -/
theorem search_of_taken {start steps : Nat} (hroom : start + steps < 2 ^ 31)
    (hpassed : ∀ k, start ≤ k → k < start + steps → taken.has (numbered dir d k) = true)
    (hfree : taken.has (numbered dir d (start + steps)) = false) :
    Search dir d taken (Int32.ofNat start) (Int32.ofNat (start + steps)) := by
  induction steps generalizing start with
  | zero =>
    rw [Nat.add_zero] at hroom hfree ⊢
    rw [← counted_ofNat hroom] at hfree
    exact .found hfree
  | succ steps ih =>
    have hshift : start + 1 + steps = start + (steps + 1) := by omega
    have hsucc : Int32.ofNat start + 1 = Int32.ofNat (start + 1) := (Int32.ofNat_add _ _).symm
    -- The name at `start` is taken, the counter has room for one more, and the loop goes on
    -- from there with one step less.
    refine .next ?_ ?_ ?_
    · rw [counted_ofNat (by omega)]
      exact hpassed start (Nat.le_refl _) (by omega)
    · rw [hsucc, Int32.toInt_ofNat_of_lt (by omega), Int32.toInt_ofNat_of_lt (by omega)]
      rfl
    · rw [hsucc, ← hshift]
      refine ih (by omega) (fun k hle hk => hpassed k (by omega) (by omega)) ?_
      rw [hshift]
      exact hfree

/-- With fewer than `2 ^ 31 - 2` paths a call ends, with the result of `unique`. By
`unique_of_taken` the number is at most one more than there are paths, so it fits. -/
theorem issue_unique (h : taken.toFinset.card < 2 ^ 31 - 2) :
    Issue dir d taken (unique dir d taken).1 (taken.insert (unique dir d taken).1) := by
  cases hplain : taken.has (ofDescriptor dir d) with
  | false =>
    rw [unique_of_free dir d taken hplain]
    exact .plain hplain
  | true =>
    obtain ⟨n, hle, hbound, hpassed, hfree, heq⟩ := unique_of_taken dir d taken hplain
    obtain ⟨steps, rfl⟩ := Nat.exists_eq_add_of_le hle
    -- `hbound` is what `lt_card_of_taken` gives: the number is at most one more than there
    -- are paths.
    have hroom : 2 + steps < 2 ^ 31 := by omega
    rw [heq, ← counted_ofNat hroom]
    exact .counted hplain (search_of_taken hroom hpassed hfree)

/-- Calls end, with the files of `uniqueEach`, as long as there is room for all of them.
Each takes one path more. -/
theorem issues_uniqueEach (calls : List (Path × String))
    (h : taken.toFinset.card + calls.length ≤ 2 ^ 31 - 2) :
    Issues taken calls (uniqueEach calls taken).1 (uniqueEach calls taken).2 := by
  induction calls generalizing taken with
  | nil => exact .nil
  | cons call calls ih =>
    obtain ⟨dir, d⟩ := call
    rw [List.length_cons] at h
    -- The bound is kept, as the first call adds one path and there is one call less.
    have hcard := card_insert_unique dir d taken
    rw [uniqueEach_cons]
    exact .cons (issue_unique (by omega)) (ih (by omega))

/-! ### Free names -/

/-- A path and the set after it are what a call on `taken` ends with:

- `result`: the call has this result, and no other;
- `isNew`, `added`, `card`: the path was not taken, and is the one that is added;
- `plain`, `least`: it has the plain name if that is free, and else the least number
  from two on whose name is free. -/
structure Fresh (dir : Path) (d : String) (taken : PathSet) (p : Path) (after : PathSet) :
    Prop where
  result : ∀ q s, Issue dir d taken q s ↔ q = p ∧ s = after
  isNew : p.components ∉ taken.toFinset
  added : after.toFinset = insert p.components taken.toFinset
  card : after.toFinset.card = taken.toFinset.card + 1
  plain : (ofDescriptor dir d).components ∉ taken.toFinset → p = ofDescriptor dir d
  least : (ofDescriptor dir d).components ∈ taken.toFinset →
    ∃ n, IsLeast {n | 2 ≤ n ∧ (numbered dir d n).components ∉ taken.toFinset} n ∧
      p = numbered dir d n

/-- Paths and the set after them are what calls on `taken` end with:

- `result`, `ends`: calls that end have this result, and they end while there is room;
- `length`, `nodup`: there is one path for every call, and no two are the same;
- `isNew`, `added`, `card`: none was taken, and nothing else is added. -/
structure FreshEach (calls : List (Path × String)) (taken : PathSet) (ps : List Path)
    (after : PathSet) : Prop where
  result : ∀ qs s, Issues taken calls qs s → qs = ps ∧ s = after
  ends : taken.toFinset.card + calls.length ≤ 2 ^ 31 - 2 → Issues taken calls ps after
  length : ps.length = calls.length
  nodup : (ps.map Path.components).Nodup
  isNew : ∀ p ∈ ps, p.components ∉ taken.toFinset
  added : after.toFinset = taken.toFinset ∪ (ps.map Path.components).toFinset
  card : after.toFinset.card = taken.toFinset.card + calls.length

/-- The file that is chosen when the plain name is taken has the least free number. -/
theorem unique_isLeast (h : (ofDescriptor dir d).components ∈ taken.toFinset) :
    ∃ n, IsLeast {n | 2 ≤ n ∧ (numbered dir d n).components ∉ taken.toFinset} n ∧
      (unique dir d taken).1 = numbered dir d n := by
  obtain ⟨n, hle, -, hpassed, hfree, heq⟩ :=
    unique_of_taken dir d taken (PathSet.mem_toFinset.mp h)
  refine ⟨n, ⟨⟨hle, PathSet.notMem_toFinset.mpr hfree⟩, fun k hk => ?_⟩, heq⟩
  obtain ⟨hk2, hkfree⟩ := hk
  by_contra hlt
  exact hkfree (PathSet.mem_toFinset.mpr (hpassed k hk2 (Nat.lt_of_not_le hlt)))

/-- **A call gives a free name, and calls give different ones.** Where fewer than
`2 ^ 31 - 2` paths are taken, whatever they are, the search of a call ends without
overflow of its counter. The result is new, is all that is added, and is the plain name
or the one with the least number.

So no two results of calls in a row are the same, and each adds one path. They all end
as long as the last of them starts with that few paths. -/
theorem unique_fresh :
    (∀ (dir : Path) (d : String) (taken : PathSet), taken.toFinset.card < 2 ^ 31 - 2 →
      Fresh dir d taken (unique dir d taken).1 (unique dir d taken).2) ∧
    (∀ (calls : List (Path × String)) (taken : PathSet),
      FreshEach calls taken (uniqueEach calls taken).1 (uniqueEach calls taken).2) := by
  constructor
  · intro dir d taken h
    -- The fields of `Fresh` in order; the first says that this result is the only one, and
    -- that a call has it.
    refine ⟨fun q s => ⟨fun hq => hq.eq_unique, ?_⟩, components_unique_notMem dir d taken,
      PathSet.toFinset_insert _ _, card_insert_unique dir d taken, fun hfree => ?_,
      unique_isLeast⟩
    · rintro ⟨rfl, rfl⟩
      exact issue_unique h
    · exact unique_of_free dir d taken (PathSet.notMem_toFinset.mp hfree)
  · intro calls taken
    refine ⟨fun qs s hqs => hqs.eq_uniqueEach, issues_uniqueEach calls,
      length_uniqueEach calls taken, nodup_uniqueEach calls taken, fun p hp => ?_,
      toFinset_uniqueEach calls taken, card_uniqueEach calls taken⟩
    exact PathSet.notMem_toFinset.mpr (not_has_of_mem_uniqueEach calls taken hp)

/-- The plain name `a.sh` is taken, and so is the first number, which is written with
two slashes. On the empty set, a name that looks numbered may be the plain name of a
descriptor, and is then taken for the next one. -/
theorem unique_fresh_third :
    Fresh ⟨"out/"⟩ "a/" ⟨[⟨"out/a.sh"⟩, ⟨"out//a-2.sh"⟩, ⟨"b"⟩]⟩ ⟨"out/a-3.sh"⟩
        ⟨[⟨"out/a-3.sh"⟩, ⟨"out/a.sh"⟩, ⟨"out//a-2.sh"⟩, ⟨"b"⟩]⟩ ∧
      FreshEach [(⟨"o"⟩, "a"), (⟨"o"⟩, "a-2"), (⟨"o"⟩, "a/")] PathSet.empty
        [⟨"o/a.sh"⟩, ⟨"o/a-2.sh"⟩, ⟨"o/a-3.sh"⟩]
        ⟨[⟨"o/a-3.sh"⟩, ⟨"o/a-2.sh"⟩, ⟨"o/a.sh"⟩]⟩ :=
  ⟨unique_fresh.1 ⟨"out/"⟩ "a/" ⟨[⟨"out/a.sh"⟩, ⟨"out//a-2.sh"⟩, ⟨"b"⟩]⟩ (by decide +kernel),
    unique_fresh.2 [(⟨"o"⟩, "a"), (⟨"o"⟩, "a-2"), (⟨"o"⟩, "a/")] PathSet.empty⟩

end FileName

end ScriptMatrix
