import Mathlib.Algebra.Order.Field.Power
import Mathlib.Data.Rat.Cast.Order
import Mathlib.Tactic.FieldSimp
import Mathlib.Tactic.Linarith
import Mathlib.Tactic.Positivity
import ScriptMatrix.Decimal.Binary64

/-!
# `ScriptMatrix.Proofs.Decimal.Normal`: rounding gives normal numbers

A number of the binary format can be written with different exponents. `Normal`
picks one way for each: the mantissa has 53 bits, or the exponent is the least
one. Whatever is rounded comes out normal (`ofDecimal_normal`): the exponent is
chosen by the power of two below the quotient (`floorLog2_spec`), so the rounded
mantissa is in range, and one that is rounded up to the next power of two is
shifted.
-/

set_option autoImplicit false

namespace ScriptMatrix.Decimal

/-- A power with its exponent cut at zero, over one with its opposite cut. The definitions
of the format multiply by natural powers on one side or the other; this is how they are one
integer power. -/
theorem zpow_eq_div (b : ℚ) (k : ℤ) : b ^ k = b ^ k.toNat / b ^ (-k).toNat := by
  rcases le_total 0 k with hk | hk
  · have hneg : (-k).toNat = 0 := by omega
    rw [hneg, pow_zero, div_one, ← zpow_natCast, Int.toNat_of_nonneg hk]
  · have hpos : k.toNat = 0 := by omega
    have hneg : ((-k).toNat : ℤ) = -k := Int.toNat_of_nonneg (by omega)
    rw [hpos, pow_zero, one_div, ← zpow_natCast, hneg, zpow_neg, inv_inv]

namespace Binary64

/-- One way to write each number: all mantissas below `2 ^ 52` have the least exponent.
Without it two numbers with the same value could be different as data, and `Near.unique`
would be wrong. -/
structure Normal (x : Binary64) : Prop where
  small : x.mantissa < 2 ^ 53
  least : minExponent ≤ x.exponent
  most : x.exponent ≤ maxExponent
  full : minExponent < x.exponent → 2 ^ 52 ≤ x.mantissa

theorem normal_zero : zero.Normal := by
  refine ⟨?_, ?_, ?_, ?_⟩ <;> decide

/-- Comparing with a power is a comparison of quotients. `powerAtMost` moves the power to
the side where its exponent is positive, so one of the two powers of `zpow_eq_div` is one. -/
theorem powerAtMost_iff {b : Nat} (hb : 0 < b) (e : Int) (num : Nat) {den : Nat} (hden : 0 < den) :
    powerAtMost b e num den = true ↔ (b : ℚ) ^ e ≤ (num : ℚ) / den := by
  have hb' : (0 : ℚ) < b := Nat.cast_pos.mpr hb
  have hden' : (0 : ℚ) < den := Nat.cast_pos.mpr hden
  rw [powerAtMost, zpow_eq_div, div_le_div_iff₀ (pow_pos hb' _) hden']
  split
  · rename_i he
    have hneg : (-e).toNat = 0 := by omega
    rw [decide_eq_true_eq, hneg, pow_zero, mul_one, mul_comm den]
    exact_mod_cast Iff.rfl
  · rename_i he
    have hpos : e.toNat = 0 := by omega
    rw [decide_eq_true_eq, hpos, pow_zero, one_mul]
    exact_mod_cast Iff.rfl

/-- A natural lies between two powers of two, here in rationals and with integer exponents
so that it can be divided. -/
theorem log2_spec {n : Nat} (hn : 0 < n) :
    (2 : ℚ) ^ (n.log2 : ℤ) ≤ n ∧ (n : ℚ) < 2 ^ ((n.log2 : ℤ) + 1) := by
  have hlow := Nat.log2_self_le hn.ne'
  have hhigh := Nat.lt_log2_self (n := n)
  refine ⟨by rw [zpow_natCast]; exact_mod_cast hlow, ?_⟩
  rw [← Nat.cast_succ, zpow_natCast]
  exact_mod_cast hhigh

/-- A quotient lies between two powers of two, too, but these are two apart: the logarithms
of both sides are cut. So `floorLog2` has to look at one power more. -/
theorem log2_sub_log2_spec {num den : Nat} (hnum : 0 < num) (hden : 0 < den) :
    (2 : ℚ) ^ ((num.log2 : ℤ) - den.log2 - 1) < (num : ℚ) / den ∧
      (num : ℚ) / den < 2 ^ ((num.log2 : ℤ) - den.log2 + 1) := by
  obtain ⟨hnumLow, hnumHigh⟩ := log2_spec hnum
  obtain ⟨hdenLow, hdenHigh⟩ := log2_spec hden
  have hden' : (0 : ℚ) < den := Nat.cast_pos.mpr hden
  constructor
  · rw [lt_div_iff₀ hden']
    calc (2 : ℚ) ^ ((num.log2 : ℤ) - den.log2 - 1) * den
        < 2 ^ ((num.log2 : ℤ) - den.log2 - 1) * 2 ^ ((den.log2 : ℤ) + 1) := by gcongr
      _ = 2 ^ (num.log2 : ℤ) := by rw [← zpow_add₀ two_ne_zero]; congr 1; omega
      _ ≤ num := hnumLow
  · rw [div_lt_iff₀ hden']
    calc (num : ℚ) < 2 ^ ((num.log2 : ℤ) + 1) := hnumHigh
      _ = 2 ^ ((num.log2 : ℤ) - den.log2 + 1) * 2 ^ (den.log2 : ℤ) := by
          rw [← zpow_add₀ two_ne_zero]; congr 1; omega
      _ ≤ 2 ^ ((num.log2 : ℤ) - den.log2 + 1) * den := by gcongr

/-- The power of two below a quotient. It is one of the two that `log2_sub_log2_spec`
leaves, and `powerAtMost` says which. -/
theorem floorLog2_spec {num den : Nat} (hnum : 0 < num) (hden : 0 < den) :
    (2 : ℚ) ^ floorLog2 num den ≤ (num : ℚ) / den ∧
      (num : ℚ) / den < 2 ^ (floorLog2 num den + 1) := by
  obtain ⟨hlow, hhigh⟩ := log2_sub_log2_spec hnum hden
  rw [floorLog2]
  split
  · rename_i hpower
    exact ⟨(powerAtMost_iff two_pos _ num hden).mp hpower, hhigh⟩
  · rename_i hpower
    refine ⟨hlow.le, ?_⟩
    rw [powerAtMost_iff two_pos _ num hden, not_le, Nat.cast_ofNat] at hpower
    rwa [sub_add_cancel]

/-- Rounding goes to the natural below or to the one above. How ties are broken is of no
concern for normal numbers. -/
theorem roundHalfEven_cases (num den : Nat) :
    roundHalfEven num den = num / den ∨ roundHalfEven num den = num / den + 1 := by
  rw [roundHalfEven]
  split
  · exact .inr rfl
  · exact .inl rfl

/-- What lies between two naturals is rounded to between them. The upper one may be reached:
a mantissa of 53 bits can be rounded up to `2 ^ 53`. -/
theorem roundHalfEven_mem {num den low high : Nat} (hden : 0 < den)
    (hlow : (low : ℚ) ≤ (num : ℚ) / den) (hhigh : (num : ℚ) / den < high) :
    low ≤ roundHalfEven num den ∧ roundHalfEven num den ≤ high := by
  have hden' : (0 : ℚ) < den := Nat.cast_pos.mpr hden
  rw [le_div_iff₀ hden'] at hlow
  rw [div_lt_iff₀ hden'] at hhigh
  have hfloor : low ≤ num / den := (Nat.le_div_iff_mul_le hden).mpr (by exact_mod_cast hlow)
  have hceil : num / den < high := Nat.div_lt_of_lt_mul (by rw [mul_comm]; exact_mod_cast hhigh)
  rcases roundHalfEven_cases num den with h | h <;> omega

/-- A quotient is divided by a power of two by multiplying one of its sides. The rounding of
`ofRatio` is then that of a quotient `a / b`, whichever side it was. -/
theorem exists_scaled (num : Nat) {den : Nat} (hden : 0 < den) (q : Int) :
    ∃ a b : Nat, 0 < b ∧ (a : ℚ) / b = (num : ℚ) / den / 2 ^ q ∧
      (if 0 ≤ q then roundHalfEven num (den * Nat.pow 2 q.toNat)
        else roundHalfEven (num * Nat.pow 2 (-q).toNat) den) = roundHalfEven a b := by
  rw [zpow_eq_div]
  split
  · rename_i hq
    have hneg : (-q).toNat = 0 := by omega
    refine ⟨num, den * 2 ^ q.toNat, by positivity, ?_, rfl⟩
    rw [hneg, pow_zero, div_one, div_div]
    push_cast
    rfl
  · rename_i hq
    have hpos : q.toNat = 0 := by omega
    refine ⟨num * 2 ^ (-q).toNat, den, hden, ?_, rfl⟩
    rw [hpos, pow_zero, div_div_eq_mul_div, div_one, ← mul_div_right_comm]
    push_cast
    rfl

/-- What is rounded is normal. The exponent `q` is 52 below the power of two under the
quotient, or the least one, and the mantissa is what is left, rounded. -/
theorem ofRatio_normal {num den : Nat} (hden : 0 < den) {x : Binary64}
    (h : ofRatio num den = some x) : x.Normal := by
  rw [ofRatio] at h
  split at h
  · cases h
    exact normal_zero
  rename_i hnum
  have hnum : 0 < num := Nat.pos_of_ne_zero fun hzero => hnum (by simp [hzero])
  obtain ⟨hlow, hhigh⟩ := floorLog2_spec hnum hden
  generalize floorLog2 num den = f at hlow hhigh h
  -- The mantissa is the quotient over `2 ^ q`, rounded.
  obtain ⟨a, b, hb, hratio, hround⟩ := exists_scaled num hden (max minExponent (f - 52))
  dsimp only at h
  rw [hround] at h
  generalize hq : max minExponent (f - 52) = q at hratio h
  have hleast : minExponent ≤ q := by omega
  have hpower : (0 : ℚ) < 2 ^ q := by positivity
  -- The mantissa has at most 53 bits, and 53 where the exponent is not the least.
  have hhigh' : (a : ℚ) / b < (2 ^ 53 : Nat) := by
    rw [hratio, div_lt_iff₀ hpower]
    calc (num : ℚ) / den < 2 ^ (f + 1) := hhigh
      _ ≤ 2 ^ (53 + q) := zpow_le_zpow_right₀ one_le_two (by omega)
      _ = (2 ^ 53 : Nat) * 2 ^ q := by rw [zpow_add₀ two_ne_zero]; norm_num
  have hsmall := (roundHalfEven_mem hb (Nat.cast_zero.trans_le (by positivity)) hhigh').2
  have hfull : minExponent < q → 2 ^ 52 ≤ roundHalfEven a b := fun hless => by
    refine (roundHalfEven_mem hb ?_ hhigh').1
    rw [hratio, le_div_iff₀ hpower]
    calc ((2 ^ 52 : Nat) : ℚ) * 2 ^ q = 2 ^ (52 + q) := by
          rw [zpow_add₀ two_ne_zero]; norm_num
      _ = 2 ^ f := by congr 1; omega
      _ ≤ (num : ℚ) / den := hlow
  generalize roundHalfEven a b = m at hsmall hfull h
  -- A number with too large an exponent is not given.
  have hexponent : ∀ y : Binary64, (if maxExponent < y.exponent then none else some y) = some x →
      y = x ∧ x.exponent ≤ maxExponent := fun y hy => by
    split at hy
    · cases hy
    · rename_i hmost
      cases hy
      exact ⟨rfl, not_lt.mp hmost⟩
  obtain ⟨rfl, hmost⟩ := hexponent _ h
  -- A mantissa that was rounded up to `2 ^ 53` is halved, and the exponent goes up.
  split at hmost <;> rename_i htop
  · rw [if_pos htop]
    have hhalf : Nat.pow 2 52 < 2 ^ 53 := by decide
    exact ⟨hhalf, hleast.trans (Int.le_add_one le_rfl), hmost, fun _ => le_rfl⟩
  · rw [if_neg htop]
    have hne : m ≠ 2 ^ 53 := fun heq => htop (beq_iff_eq.mpr heq)
    exact ⟨lt_of_le_of_ne hsmall hne, hleast, hmost, hfull⟩

/-- What is read from a decimal is normal. Decimals that are far too large or small are told
beforehand, and the others are quotients (`ofRatio_normal`). -/
theorem ofDecimal_normal {digits : Nat} {exponent : Int} {x : Binary64}
    (h : ofDecimal digits exponent = some x) : x.Normal := by
  rw [ofDecimal] at h
  split at h
  · cases h
    exact normal_zero
  · split at h
    · cases h
    · split at h
      · exact ofRatio_normal one_pos h
      · exact ofRatio_normal (Nat.pow_pos (by decide)) h

end Binary64

end ScriptMatrix.Decimal
