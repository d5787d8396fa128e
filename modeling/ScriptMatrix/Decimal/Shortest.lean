import ScriptMatrix.Decimal.Binary64

/-!
# `ScriptMatrix.Decimal.Shortest`: the shortest decimal that reads back

The reals that round to a binary number form an interval around it, with
its ends exactly when the mantissa is even. `Binary64.shortest` is the
decimal of fewest digits in that interval, and of those the one nearest
to the number: on the grid of `n`-digit decimals only the two neighbours
of the number can be, so the first grid with a hit decides.
-/

set_option autoImplicit false

namespace ScriptMatrix.Decimal

/-- The decimal `digits * 10 ^ exponent`. -/
structure Scaled where
  digits : Nat
  exponent : Int
  deriving Repr, DecidableEq

/-- The same number without trailing zeros in its digits; `fuel` bounds
their count. -/
def Scaled.stripZeros : Nat → Scaled → Scaled
  | 0, d => d
  | fuel + 1, d =>
    if d.digits != 0 && d.digits % 10 == 0 then
      Scaled.stripZeros fuel ⟨d.digits / 10, d.exponent + 1⟩
    else d

/-- A binary number with the interval that rounds to it, as quotients
over one denominator. -/
structure RoundingInterval where
  low : Nat
  value : Nat
  high : Nat
  den : Nat
  /-- Whether the ends round to the number too. -/
  closed : Bool
  deriving Repr

/-- The interval of a number. Below a power of two the neighbour is only
half as far away, the least exponent excepted. -/
def RoundingInterval.of (x : Binary64) : RoundingInterval :=
  let m := x.mantissa
  let below := if m == Nat.pow 2 52 && Binary64.minExponent < x.exponent then 1 else 2
  let up := Nat.pow 2 (x.exponent - 2).toNat
  { low := (4 * m - below) * up
    value := 4 * m * up
    high := (4 * m + 2) * up
    den := Nat.pow 2 (2 - x.exponent).toNat
    closed := m % 2 == 0 }

namespace RoundingInterval

/-- Whether `c * 10 ^ k` lies in the interval. -/
def holds (i : RoundingInterval) (c : Nat) (k : Int) : Bool :=
  let x := c * Nat.pow 10 k.toNat * i.den
  let low := i.low * Nat.pow 10 (-k).toNat
  let high := i.high * Nat.pow 10 (-k).toNat
  if i.closed then low ≤ x && x ≤ high else low < x && x < high

/-- The exponent of the leading decimal digit of the number: the greatest
`p` with `10 ^ p ≤ value / den`. -/
def leadingExponent (i : RoundingInterval) : Int :=
  let guess := ((i.value.log2 : Int) - (i.den.log2 : Int)) * 30103 / 100000
  let candidates := [guess + 2, guess + 1, guess, guess - 1, guess - 2]
  (candidates.find? fun p => Binary64.powerAtMost 10 p i.value i.den).getD guess

/-- The neighbours of the number on the grid of the multiples of
`10 ^ k`, as far as they lie in the interval: the nearer one, and the
even one when both are as near. -/
def onGrid (i : RoundingInterval) (k : Int) : Option Scaled :=
  let num := i.value * Nat.pow 10 (-k).toNat
  let den := i.den * Nat.pow 10 k.toNat
  let c := num / den
  let r := num % den
  let upNearer := den < 2 * r || (2 * r == den && c % 2 == 1)
  match i.holds c k, i.holds (c + 1) k with
  | true, true => some ⟨if upNearer then c + 1 else c, k⟩
  | true, false => some ⟨c, k⟩
  | false, true => some ⟨c + 1, k⟩
  | false, false => none

end RoundingInterval

/-- The shortest decimal that rounds to `x`, without trailing zeros.
Seventeen digits always suffice. -/
def Binary64.shortest (x : Binary64) : Scaled :=
  if x.mantissa == 0 then ⟨0, 0⟩
  else
    let i := RoundingInterval.of x
    let p := i.leadingExponent
    let hit := (List.range 17).findSome? fun n : Nat => i.onGrid (p - n)
    (hit.getD ⟨0, 0⟩).stripZeros 17

end ScriptMatrix.Decimal
