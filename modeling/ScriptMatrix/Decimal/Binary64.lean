/-!
# `ScriptMatrix.Decimal.Binary64`: the numbers of the 64-bit binary format

A magnitude is `mantissa · 2 ^ exponent`. `ofRatio` rounds a quotient of
naturals to the nearest number of the format, a tie to the even mantissa;
`ofDecimal` does so for a decimal. Both are exact arithmetic on `Nat`.
-/

set_option autoImplicit false

namespace ScriptMatrix.Decimal

/-- A finite magnitude: the number `mantissa * 2 ^ exponent`. -/
structure Binary64 where
  mantissa : Nat
  exponent : Int
  deriving Repr, DecidableEq

namespace Binary64

/-- The exponent of the subnormal numbers, the least there is. -/
def minExponent : Int := -1074

/-- The exponent of the largest numbers. -/
def maxExponent : Int := 971

/-- Zero. -/
def zero : Binary64 := ⟨0, minExponent⟩

/-- Whether `b ^ e ≤ num / den`. -/
def powerAtMost (b : Nat) (e : Int) (num den : Nat) : Bool :=
  if 0 ≤ e then den * b.pow e.toNat ≤ num else den ≤ num * b.pow (-e).toNat

/-- The greatest `e` with `2 ^ e ≤ num / den`, for positive operands. -/
def floorLog2 (num den : Nat) : Int :=
  let e : Int := (num.log2 : Int) - (den.log2 : Int)
  if powerAtMost 2 e num den then e else e - 1

/-- `num / den` to the nearest natural, a half to the even one. -/
def roundHalfEven (num den : Nat) : Nat :=
  let m := num / den
  let r := num % den
  if den < 2 * r || (2 * r == den && m % 2 == 1) then m + 1 else m

/-- The number nearest to `num / den`; `none` when that is beyond the
largest one. -/
def ofRatio (num den : Nat) : Option Binary64 :=
  if num == 0 then some zero
  else
    let q := max minExponent (floorLog2 num den - 52)
    let m := if 0 ≤ q then roundHalfEven num (den * Nat.pow 2 q.toNat)
      else roundHalfEven (num * Nat.pow 2 (-q).toNat) den
    let x : Binary64 := if m == Nat.pow 2 53 then ⟨Nat.pow 2 52, q + 1⟩ else ⟨m, q⟩
    if maxExponent < x.exponent then none else some x

/-- The number nearest to `digits * 10 ^ exponent`; `none` when that is
beyond the largest one. Far outside the format's range the answer does
not hang on the digits, and the powers are not computed. -/
def ofDecimal (digits : Nat) (exponent : Int) : Option Binary64 :=
  let size : Int := (Nat.toDigits 10 digits).length + exponent
  if digits == 0 || size < -330 then some zero
  else if 310 < size then none
  else if 0 ≤ exponent then ofRatio (digits * Nat.pow 10 exponent.toNat) 1
  else ofRatio digits (Nat.pow 10 (-exponent).toNat)

end Binary64

end ScriptMatrix.Decimal
