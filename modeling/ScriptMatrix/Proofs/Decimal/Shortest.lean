import Mathlib.Tactic.Ring
import ScriptMatrix.Decimal.Shortest
import ScriptMatrix.Proofs.Decimal.Normal

/-!
# `ScriptMatrix.Proofs.Decimal.Shortest`: the shortest decimal tells numbers apart

`Binary64.Near` says in rationals what rounds to a number; `holds_iff` ties the
comparisons of naturals to it. Numbers that are normal have intervals with at
most an end in common, and an end belongs to the even mantissa only, so what is
near to two of them is near to one (`Near.unique`).

The shortest decimal of a number is near to it (`near_shortest`), since every
decimal that is found on a grid is. One is found at last: the grid of seventeen
digits is finer than the interval is wide, so one of its two neighbours of the
number is inside (`onGrid_ne_none`). How fine the grid is hangs on the leading
exponent, whose guess takes 0.30103 for the logarithm of two and is not too far off
for the exponents of the format (`guess_spec`).
-/

set_option autoImplicit false

namespace ScriptMatrix.Decimal

/-- The number that a decimal is. -/
def Scaled.value (d : Scaled) : ℚ := d.digits * 10 ^ d.exponent

/-- Taking zeros off the end of the digits leaves the number. The digits that are found are
stripped before they are shown. -/
theorem Scaled.value_stripZeros (fuel : Nat) (d : Scaled) :
    (stripZeros fuel d).value = d.value := by
  induction fuel generalizing d with
  | zero => rfl
  | succ fuel ih =>
    rw [stripZeros]
    split
    · rename_i hzero
      simp only [Bool.and_eq_true, bne_iff_ne, beq_iff_eq] at hzero
      have hdigits : ((d.digits / 10 : Nat) : ℚ) * 10 = d.digits := by
        exact_mod_cast Nat.div_mul_cancel (Nat.dvd_of_mod_eq_zero hzero.2)
      rw [ih, value, value, ← hdigits, zpow_add_one₀ (by norm_num)]
      ring
    · rfl

namespace Binary64

/-! ### What rounds to a number -/

/-- How far the numbers that round to a number begin below it, in quarters of its last
place. Below a power of two the numbers lie twice as close, so they begin nearer to it. -/
def reach (x : Binary64) : Nat :=
  if x.mantissa = 2 ^ 52 ∧ minExponent < x.exponent then 1 else 2

/-- The lower end of what rounds to a number, half way to the number below. -/
def lowEnd (x : Binary64) : ℚ := (4 * x.mantissa - x.reach) * 2 ^ (x.exponent - 2)

/-- The upper end of what rounds to a number, half way to the number above. -/
def highEnd (x : Binary64) : ℚ := (4 * x.mantissa + 2) * 2 ^ (x.exponent - 2)

/-- What rounds to a number lies between its ends. The ends themselves round to it
if its mantissa is even. -/
def Near (x : Binary64) (v : ℚ) : Prop :=
  if x.mantissa % 2 = 0 then x.lowEnd ≤ v ∧ v ≤ x.highEnd else x.lowEnd < v ∧ v < x.highEnd

theorem Near.le {x : Binary64} {v : ℚ} (h : x.Near v) : x.lowEnd ≤ v ∧ v ≤ x.highEnd := by
  rw [Near] at h
  split at h
  · exact h
  · exact ⟨h.1.le, h.2.le⟩

theorem Near.lt {x : Binary64} {v : ℚ} (h : x.Near v) (hodd : x.mantissa % 2 = 1) :
    x.lowEnd < v ∧ v < x.highEnd := by
  rwa [Near, if_neg (by omega)] at h

theorem near_of_lt {x : Binary64} {v : ℚ} (hlow : x.lowEnd < v) (hhigh : v < x.highEnd) :
    x.Near v := by
  rw [Near]
  split
  · exact ⟨hlow.le, hhigh.le⟩
  · exact ⟨hlow, hhigh⟩

/-- The reach is a half or a quarter of the last place, the latter for powers of two. The
least exponent has no closer numbers below it, so there it is a half. -/
theorem reach_cases (x : Binary64) :
    (x.reach = 1 ∧ x.mantissa = 2 ^ 52) ∨
      x.reach = 2 ∧ (minExponent < x.exponent → x.mantissa ≠ 2 ^ 52) := by
  rw [reach]
  split
  · rename_i hpower
    exact .inl ⟨rfl, hpower.1⟩
  · rename_i hpower
    exact .inr ⟨rfl, fun hless hm => hpower ⟨hm, hless⟩⟩

/-- A number, counted in quarters of its last place, lies between its ends, and is neither
of them. `onGrid_ne_none` needs that to tell on which side of the interval its neighbours
are. -/
theorem between_ends (x : Binary64) :
    x.lowEnd < (4 * x.mantissa : Nat) * 2 ^ (x.exponent - 2) ∧
      (4 * x.mantissa : Nat) * 2 ^ (x.exponent - 2) < x.highEnd := by
  have hreach : (0 : ℚ) < x.reach := by
    have := x.reach_cases
    exact_mod_cast (by omega : 0 < x.reach)
  rw [lowEnd, highEnd]
  push_cast
  constructor
  · gcongr
    linarith
  · gcongr
    linarith

/-- The greater of two normal numbers begins where the other one ends, or above. If it
begins there, one of the two is odd. All is counted in quarters of the last place of the
smaller one, where it is a fact on naturals. -/
theorem highEnd_le_lowEnd {x y : Binary64} (hx : x.Normal) (hy : y.Normal)
    (hless : x.exponent < y.exponent ∨ x.exponent = y.exponent ∧ x.mantissa < y.mantissa) :
    x.highEnd ≤ y.lowEnd ∧
      (x.highEnd = y.lowEnd → x.mantissa % 2 = 1 ∨ y.mantissa % 2 = 1) := by
  have hu : (0 : ℚ) < 2 ^ (x.exponent - 2) := by positivity
  have hm := hx.small
  have hreach := y.reach_cases
  -- Quarters of the greater number's last place are `k` or more of the other's.
  obtain ⟨k, hlow, hle, hodd⟩ : ∃ k : Nat,
      (k * (4 * y.mantissa - y.reach) : ℚ) * 2 ^ (x.exponent - 2) ≤ y.lowEnd ∧
      4 * x.mantissa + 2 + k * y.reach ≤ k * (4 * y.mantissa) ∧
      (4 * x.mantissa + 2 + k * y.reach = k * (4 * y.mantissa) →
        x.mantissa % 2 = 1 ∨ y.mantissa % 2 = 1) := by
    rcases hless with hless | ⟨hsame, hless⟩
    · -- With a greater exponent, one quarter of the greater number is at least two.
      have hfull := hy.full (hx.least.trans_lt hless)
      have hpower : y.reach = 1 ∧ y.mantissa = 2 ^ 52 ∨ y.reach = 2 ∧ y.mantissa ≠ 2 ^ 52 :=
        hreach.imp_right (And.imp_right fun h => h (hx.least.trans_lt hless))
      refine ⟨2, ?_, by omega, by omega⟩
      have hpos : (0 : ℚ) ≤ 4 * y.mantissa - y.reach := by
        have : y.reach ≤ 4 * y.mantissa := by omega
        rw [sub_nonneg]
        exact_mod_cast this
      calc (2 * (4 * y.mantissa - y.reach) : ℚ) * 2 ^ (x.exponent - 2)
          = (4 * y.mantissa - y.reach) * 2 ^ (x.exponent - 2 + 1) := by
            rw [zpow_add_one₀ two_ne_zero]; ring
        _ ≤ (4 * y.mantissa - y.reach) * 2 ^ (y.exponent - 2) := by
            gcongr
            · exact one_le_two
            · omega
    · -- With the same exponent the quarters are the same.
      refine ⟨1, ?_, by omega, by omega⟩
      rw [lowEnd, Nat.cast_one, one_mul, hsame]
  have hle' : (4 * x.mantissa + 2 : ℚ) ≤ k * (4 * y.mantissa - y.reach) := by
    rw [mul_sub, le_sub_iff_add_le]
    exact_mod_cast hle
  refine ⟨(mul_le_mul_of_nonneg_right hle' hu.le).trans hlow, fun heq => hodd ?_⟩
  have hends : (4 * x.mantissa + 2 : ℚ) = k * (4 * y.mantissa - y.reach) :=
    le_antisymm hle' (le_of_mul_le_mul_right (hlow.trans_eq heq.symm) hu)
  rw [mul_sub, eq_sub_iff_add_eq] at hends
  exact_mod_cast hends

/-- What is near to two normal numbers is near to one. If one of two numbers were smaller it
would have to end where the other begins, and there one of the two, being odd, does not
reach. -/
theorem Near.unique {x y : Binary64} {v : ℚ} (hx : x.Normal) (hy : y.Normal) (hxv : x.Near v)
    (hyv : y.Near v) : x = y := by
  have hcross : ∀ {x y : Binary64}, x.Normal → y.Normal → x.Near v → y.Near v →
      ¬(x.exponent < y.exponent ∨ x.exponent = y.exponent ∧ x.mantissa < y.mantissa) := by
    intro x y hx hy hxv hyv hless
    obtain ⟨hle, heq⟩ := highEnd_le_lowEnd hx hy hless
    have hend : x.highEnd = y.lowEnd := le_antisymm hle (hyv.le.1.trans hxv.le.2)
    rcases heq hend with hodd | hodd
    · exact absurd (hxv.lt hodd).2 (not_lt.mpr (hend ▸ hyv.le.1))
    · exact absurd (hyv.lt hodd).1 (not_lt.mpr (hend ▸ hxv.le.2))
  have hxy := hcross hx hy hxv hyv
  have hyx := hcross hy hx hyv hxv
  obtain ⟨m, e⟩ := x
  obtain ⟨n, f⟩ := y
  dsimp only at hxy hyx
  rw [mk.injEq]
  omega

end Binary64

/-! ### Decimals near a number -/

open Binary64 (minExponent Normal)

/-- A binary and a decimal number are compared as naturals, each power on the side where its
exponent is positive. `RoundingInterval.holds` is such a comparison of naturals. -/
theorem binary_le_decimal_iff (a c : Nat) (j k : Int) :
    ((a : ℚ) * 2 ^ j ≤ c * 10 ^ k ↔
      a * 2 ^ j.toNat * 10 ^ (-k).toNat ≤ c * 10 ^ k.toNat * 2 ^ (-j).toNat) ∧
    ((c : ℚ) * 10 ^ k ≤ a * 2 ^ j ↔
      c * 10 ^ k.toNat * 2 ^ (-j).toNat ≤ a * 2 ^ j.toNat * 10 ^ (-k).toNat) := by
  have htwo : (0 : ℚ) < 2 ^ (-j).toNat := by positivity
  have hten : (0 : ℚ) < 10 ^ (-k).toNat := by positivity
  rw [zpow_eq_div 2 j, zpow_eq_div 10 k, ← mul_div_assoc, ← mul_div_assoc,
    div_le_div_iff₀ htwo hten, div_le_div_iff₀ hten htwo]
  constructor <;> exact_mod_cast Iff.rfl

namespace RoundingInterval

/-- The decimals in the interval of a number are those near to it. `RoundingInterval` has
the ends as naturals, with a denominator, and whether they belong to it. -/
theorem holds_iff {x : Binary64} (hx : 0 < x.mantissa) (c : Nat) (k : Int) :
    (of x).holds c k = true ↔ x.Near (c * 10 ^ k) := by
  have hreach : (if x.mantissa == Nat.pow 2 52 && decide (minExponent < x.exponent) then 1 else 2)
      = x.reach := by
    simp [Binary64.reach]
  have hle : x.reach ≤ 4 * x.mantissa := by
    have := x.reach_cases
    omega
  have hlow := binary_le_decimal_iff (4 * x.mantissa - x.reach) c (x.exponent - 2) k
  have hhigh := binary_le_decimal_iff (4 * x.mantissa + 2) c (x.exponent - 2) k
  rw [Nat.cast_sub hle] at hlow
  push_cast at hlow hhigh
  rw [neg_sub] at hlow hhigh
  rw [Binary64.Near, Binary64.lowEnd, Binary64.highEnd, ← not_le, ← not_le, hlow.1, hlow.2, hhigh.1,
    hhigh.2, holds, of]
  dsimp only
  rw [hreach]
  -- The ends belong to the interval of an even mantissa, and only there.
  by_cases heven : x.mantissa % 2 = 0
  · rw [if_pos (beq_iff_eq.mpr heven), if_pos heven, Bool.and_eq_true, decide_eq_true_eq,
      decide_eq_true_eq]
    exact Iff.rfl
  · rw [if_neg (mt beq_iff_eq.mp heven), if_neg heven, Bool.and_eq_true, decide_eq_true_eq,
      decide_eq_true_eq, not_le, not_le]
    exact Iff.rfl

/-- A decimal that is found on a grid lies in the interval. Whichever of the two neighbours
is chosen has been tested. -/
theorem holds_of_onGrid {i : RoundingInterval} {k : Int} {d : Scaled} (h : i.onGrid k = some d) :
    i.holds d.digits d.exponent = true := by
  rw [onGrid] at h
  split at h
  · rename_i hlow hhigh
    cases h
    dsimp only
    split
    · exact hhigh
    · exact hlow
  · rename_i hlow _
    cases h
    exact hlow
  · rename_i _ hhigh
    cases h
    exact hhigh
  · cases h

/-- The number that an interval is about, as a quotient. `leadingExponent` works with the
two sides of it. -/
theorem value_of (x : Binary64) :
    ((of x).value : ℚ) / (of x).den = (4 * x.mantissa : Nat) * 2 ^ (x.exponent - 2) := by
  rw [zpow_eq_div, neg_sub, ← mul_div_assoc]
  norm_cast

/-- The multiples of a power of ten on both sides of a number. The lower one, `c`, is a
natural quotient, so the next one is above. -/
theorem neighbours_spec (x : Binary64) (k : Int) :
    let c := (of x).value * Nat.pow 10 (-k).toNat / ((of x).den * Nat.pow 10 k.toNat)
    (c : ℚ) * 10 ^ k ≤ (4 * x.mantissa : Nat) * 2 ^ (x.exponent - 2) ∧
      (4 * x.mantissa : Nat) * 2 ^ (x.exponent - 2) < ((c + 1 : Nat) : ℚ) * 10 ^ k := by
  intro c
  have hden : 0 < (of x).den * Nat.pow 10 k.toNat :=
    Nat.mul_pos (Nat.pow_pos (by decide)) (Nat.pow_pos (by decide))
  have hcompare : ∀ n : Nat, (n : ℚ) * 10 ^ k ≤ (4 * x.mantissa : Nat) * 2 ^ (x.exponent - 2) ↔
      n ≤ c := fun n => by
    have hassoc : n * ((of x).den * Nat.pow 10 k.toNat)
        = n * 10 ^ k.toNat * 2 ^ (-(x.exponent - 2)).toNat := by
      rw [neg_sub, mul_comm (of x).den, ← mul_assoc]
      rfl
    rw [(binary_le_decimal_iff _ n _ k).2, ← hassoc, Nat.le_div_iff_mul_le hden]
    exact Iff.rfl
  exact ⟨(hcompare c).mpr le_rfl,
    not_le.mp fun hle => Nat.not_succ_le_self c ((hcompare (c + 1)).mp hle)⟩

/-- If the grid is finer than the interval, a decimal is found. Were both neighbours of the
number outside, the whole interval would lie between them, and it would be no wider than the
grid. -/
theorem onGrid_ne_none {x : Binary64} (hx : 0 < x.mantissa) {k : Int}
    (hfine : (10 : ℚ) ^ k < x.highEnd - x.lowEnd) : (of x).onGrid k ≠ none := by
  intro hnone
  obtain ⟨hbelow, habove⟩ := neighbours_spec x k
  obtain ⟨hlowEnd, hhighEnd⟩ := x.between_ends
  rw [onGrid] at hnone
  generalize (of x).value * Nat.pow 10 (-k).toNat / ((of x).den * Nat.pow 10 k.toNat) = c
    at hnone hbelow habove
  have hout : ¬x.Near (c * 10 ^ k) ∧ ¬x.Near ((c + 1 : Nat) * 10 ^ k) := by
    rw [← holds_iff hx, ← holds_iff hx]
    split at hnone
    · cases hnone
    · cases hnone
    · cases hnone
    · rename_i hlow hhigh
      rw [hlow, hhigh]
      exact ⟨Bool.false_ne_true, Bool.false_ne_true⟩
  -- Both neighbours are outside, so the whole interval is between them.
  have hlow : (c : ℚ) * 10 ^ k ≤ x.lowEnd := by
    by_contra hlow
    exact hout.1 (Binary64.near_of_lt (not_le.mp hlow) (hbelow.trans_lt hhighEnd))
  have hhigh : x.highEnd ≤ ((c + 1 : Nat) : ℚ) * 10 ^ k := by
    by_contra hhigh
    exact hout.2 (Binary64.near_of_lt (hlowEnd.trans habove) (not_le.mp hhigh))
  rw [Nat.cast_succ, add_mul, one_mul] at hhigh
  linarith

/-- A power of ten and one of two are compared by a fraction `a / b` close to the logarithm
of two. What is left to compare are powers with one exponent `l`, and for these the bases
decide. -/
theorem ten_zpow_le_two_zpow {g l : Int} {a b : Nat} (hb : b ≠ 0) (hgl : b * g ≤ a * l)
    (hbase : ((10 : ℚ) ^ a) ^ l ≤ ((2 : ℚ) ^ b) ^ l) : (10 : ℚ) ^ g ≤ 2 ^ l := by
  refine (pow_le_pow_iff_left₀ (by positivity) (by positivity) hb).mp ?_
  calc ((10 : ℚ) ^ g) ^ b = 10 ^ (b * g) := by rw [mul_comm, zpow_mul, zpow_natCast]
    _ ≤ 10 ^ (a * l) := zpow_le_zpow_right₀ (by norm_num) hgl
    _ = (10 ^ a) ^ l := by rw [zpow_mul, zpow_natCast]
    _ ≤ (2 ^ b) ^ l := hbase
    _ = (2 ^ l) ^ b := by rw [← zpow_natCast, ← zpow_natCast, zpow_comm]

/-- For exponents of the format, the power of ten two below the guess is at most the power
of two. The guess multiplies by 0.30103, which is a little more than the logarithm. Two
below it there is room for that, as long as the exponent stays below 1100. -/
theorem guess_spec {l : Int} (hlow : -1100 ≤ l) (hhigh : l < 1100) :
    (10 : ℚ) ^ (l * 30103 / 100000 - 2) ≤ 2 ^ l := by
  -- The fraction has to err to the side that the sign of the exponent asks for.
  rcases le_total 0 l with hl | hl
  · refine ten_zpow_le_two_zpow (a := 59) (b := 196) (by decide) (by push_cast; omega) ?_
    exact zpow_le_zpow_left₀ hl (by positivity) (by norm_num)
  · refine ten_zpow_le_two_zpow (a := 28) (b := 93) (by decide) (by push_cast; omega) ?_
    rw [← inv_le_inv₀ (by positivity) (by positivity), ← zpow_neg, ← zpow_neg]
    exact zpow_le_zpow_left₀ (by omega) (by positivity) (by norm_num)

/-- The binary exponent `l` that the guess starts from is one for which `guess_spec` holds,
and its power of two is at most the number. The bounds are those of the exponents of normal
numbers. -/
theorem log2_sub_log2_of {x : Binary64} (hx : x.Normal) (hm : 0 < x.mantissa) :
    let l : Int := (of x).value.log2 - (of x).den.log2
    l < 1100 ∧ -1100 ≤ l ∧ (2 : ℚ) ^ l ≤ ((of x).value : ℚ) / (of x).den := by
  intro l
  obtain ⟨hsmall, hleast, hmost, -⟩ := hx
  have hvalue : 0 < (of x).value := Nat.mul_pos (by omega) (Nat.pow_pos (by decide))
  have hden : (of x).den.log2 = (2 - x.exponent).toNat := Nat.log2_two_pow
  rw [Binary64.minExponent] at hleast
  rw [Binary64.maxExponent] at hmost
  have hlog : (of x).value.log2 < 55 + 969 := by
    rw [Nat.log2_lt hvalue.ne']
    calc (of x).value = 4 * x.mantissa * 2 ^ (x.exponent - 2).toNat := rfl
      _ < 2 ^ 55 * 2 ^ (x.exponent - 2).toNat := by gcongr; omega
      _ ≤ 2 ^ 55 * 2 ^ 969 := by gcongr <;> omega
      _ = 2 ^ (55 + 969) := (pow_add 2 55 969).symm
  refine ⟨by omega, by omega, ?_⟩
  have hdenom : (((of x).den : Nat) : ℚ) = 2 ^ ((of x).den.log2 : ℤ) := by
    rw [hden, zpow_natCast]
    exact Nat.cast_pow 2 (2 - x.exponent).toNat
  rw [hdenom, zpow_sub₀ two_ne_zero]
  gcongr
  exact (Binary64.log2_spec hvalue).1

/-- The leading exponent is that of a power of ten that is at most the number. It is the
largest of five around the guess that is, and `guess_spec` says that the least of these is. -/
theorem leadingExponent_spec {x : Binary64} (hx : x.Normal) (hm : 0 < x.mantissa) :
    (10 : ℚ) ^ (of x).leadingExponent ≤ (4 * x.mantissa : Nat) * 2 ^ (x.exponent - 2) := by
  have hden : 0 < (of x).den := Nat.pow_pos (by decide)
  obtain ⟨hhigh, hlow, hpower⟩ := log2_sub_log2_of hx hm
  have hguess := (guess_spec hlow hhigh).trans hpower
  rw [← value_of]
  refine (Binary64.powerAtMost_iff (by decide) _ _ hden).mp ?_
  rw [leadingExponent]
  generalize ((of x).value.log2 - (of x).den.log2 : Int) * 30103 / 100000 = guess at hguess
  cases hfind : [guess + 2, guess + 1, guess, guess - 1, guess - 2].find? fun p =>
      Binary64.powerAtMost 10 p (of x).value (of x).den with
  | some p =>
    exact List.find?_some (p := fun p => Binary64.powerAtMost 10 p (of x).value (of x).den) hfind
  | none =>
    have hnone := List.find?_eq_none.mp hfind (guess - 2) (by simp)
    exact absurd ((Binary64.powerAtMost_iff (by decide) _ _ hden).mpr hguess) hnone

/-- On the grid of seventeen digits a decimal is found. Its steps are `10 ^ -16` of the
number at most, and the interval is wider than that, even above a power of two. -/
theorem onGrid_seventeen {x : Binary64} (hx : x.Normal) (hm : 0 < x.mantissa) :
    (of x).onGrid ((of x).leadingExponent - 16) ≠ none := by
  refine onGrid_ne_none hm ?_
  have hleading := leadingExponent_spec hx hm
  have hu : (0 : ℚ) < 2 ^ (x.exponent - 2) := by positivity
  have hgrid : (10 : ℚ) ^ ((of x).leadingExponent - 16) * 10 ^ 16
      ≤ 4 * x.mantissa * 2 ^ (x.exponent - 2) := by
    rw [zpow_sub₀ (by norm_num)]
    push_cast at hleading
    simpa using hleading
  have hwidth : x.highEnd - x.lowEnd = (2 + x.reach) * 2 ^ (x.exponent - 2) := by
    rw [Binary64.highEnd, Binary64.lowEnd]
    ring
  rw [hwidth]
  -- Above a power of two the interval is narrower, and the number is smaller.
  rcases x.reach_cases with ⟨hreach, hpower⟩ | ⟨hreach, -⟩
  · rw [hpower] at hgrid
    rw [hreach]
    push_cast at hgrid ⊢
    linarith
  · have hmost : (x.mantissa : ℚ) * 2 ^ (x.exponent - 2) ≤ 2 ^ 53 * 2 ^ (x.exponent - 2) := by
      gcongr
      exact_mod_cast hx.small.le
    rw [hreach]
    push_cast
    linarith

end RoundingInterval

namespace Binary64

/-- The shortest decimal of a number is near to it, also if the number is zero. One is found
with seventeen digits if not with less, and every decimal that is found is near. -/
theorem near_shortest {x : Binary64} (hx : x.Normal) : x.Near x.shortest.value := by
  rcases Nat.eq_zero_or_pos x.mantissa with hzero | hm
  · have hvalue : x.shortest.value = 0 := by
      rw [shortest, if_pos (by simp [hzero]), Scaled.value]
      simp
    rw [Near, hzero, if_pos (Nat.zero_mod 2), hvalue, lowEnd, highEnd, hzero, Nat.cast_zero,
      mul_zero, zero_sub, zero_add]
    have hu : (0 : ℚ) < 2 ^ (x.exponent - 2) := by positivity
    exact ⟨mul_nonpos_of_nonpos_of_nonneg (by simp) hu.le, by positivity⟩
  · have hne : ¬(x.mantissa == 0) = true := by simpa using hm.ne'
    rw [shortest, if_neg hne]
    dsimp only
    rw [Scaled.value_stripZeros]
    cases hhit : (List.range 17).findSome? fun n : Nat =>
        (RoundingInterval.of x).onGrid ((RoundingInterval.of x).leadingExponent - n) with
    | some d =>
      obtain ⟨n, -, hgrid⟩ := List.exists_of_findSome?_eq_some hhit
      exact (RoundingInterval.holds_iff hm _ _).mp (RoundingInterval.holds_of_onGrid hgrid)
    -- The last of the grids that are tried has seventeen digits.
    | none =>
      exact absurd (List.findSome?_eq_none_iff.mp hhit 16 (by decide))
        (RoundingInterval.onGrid_seventeen hx hm)

/-- Different numbers have different shortest decimals: each decimal is near to its number,
and to one number only. -/
theorem shortest_injective {x y : Binary64} (hx : x.Normal) (hy : y.Normal)
    (h : x.shortest.value = y.shortest.value) : x = y :=
  Near.unique hx hy (near_shortest hx) (h ▸ near_shortest hy)

end Binary64

end ScriptMatrix.Decimal
