import ScriptMatrix.Unicode.CharSet

/-!
# `ScriptMatrix.Unicode.Table`: reading tables of characters

Tables are rows of numbers in text. A number is written in base 32, the
leading digits as `W` to `_` and the last one as `0` to `V`.
-/

set_option autoImplicit false

namespace ScriptMatrix.Unicode.Table

/-- The place of a digit in `0`–`9`, `A`–`Z`, `a`–`z`, `.`, `_`. -/
def digit (c : Char) : Nat :=
  if '0' ≤ c && c ≤ '9' then c.toNat - 48
  else if 'A' ≤ c && c ≤ 'Z' then c.toNat - 55
  else if 'a' ≤ c && c ≤ 'z' then c.toNat - 61
  else if c == '.' then 62
  else 63

/-- Reads numbers, given the value of the digits before. -/
def numbersFrom (value : Nat) : List Char → List Nat
  | [] => []
  | c :: cs =>
    let d := digit c
    if d < 32 then (value * 32 + d) :: numbersFrom 0 cs
    else numbersFrom (value * 32 + (d - 32)) cs

/-- The numbers of a table. -/
def numbers (table : String) : List Nat := numbersFrom 0 table.toList

/-- Reads ranges from pairs of a distance and a length less one, the
first distance from `start` on. -/
def rangesFrom (start : Nat) : List Nat → List (Nat × Nat)
  | gap :: length :: rest =>
    let lo := start + gap
    let hi := lo + length
    (lo, hi) :: rangesFrom (hi + 1) rest
  | _ => []

/-- The ranges of a table. -/
def ranges (table : String) : List (Nat × Nat) := rangesFrom 0 (numbers table)

/-- Reads runs from pairs of a number and a length less one. -/
def runsFrom (start : Nat) : List Nat → List (Nat × Nat × Nat)
  | value :: length :: rest => (value, start, start + length) :: runsFrom (start + length + 1) rest
  | _ => []

/-- The runs of a table: a number, and the first and the last character
that it belongs to. -/
def runs (table : String) : List (Nat × Nat × Nat) := runsFrom 0 (numbers table)

/-- The ranges of the runs whose number is wanted. -/
def select (rs : List (Nat × Nat × Nat)) (wanted : Nat → Bool) : List (Nat × Nat) :=
  (rs.filter fun r => wanted r.1).map fun r => (r.2.1, r.2.2)

end ScriptMatrix.Unicode.Table
