import ScriptMatrix.Unicode.CharSet

/-!
# `ScriptMatrix.Regex.Automaton.Octets`: ranges of characters as ranges of octets

An automaton reads octets. A range of characters falls apart into rows of
octet ranges, one range for each octet of the characters, such that a row
stands for exactly the characters whose octets lie in its ranges. The rows
come in the order of the characters.
-/

set_option autoImplicit false

namespace ScriptMatrix.Regex

open ScriptMatrix.Unicode (CharSet)

/-- A range of octets, both ends included. -/
structure OctetRange where
  lo : UInt8
  hi : UInt8
  deriving Repr, DecidableEq, Inhabited

/-- Where a range of code points has to be cut because the characters on
both sides have different numbers of octets, or surrogates lie between:
the last code point before the cut, and the first one behind it. -/
def encodingCuts : List (Nat × Nat) := [
  (0x7f, 0x80), (0x7ff, 0x800), (0xd7ff, 0xe000), (0xffff, 0x10000)]

/-- The parts of a range between cuts. -/
def cutAt (cuts : List (Nat × Nat)) (lo hi : Nat) : List (Nat × Nat) :=
  match cuts with
  | [] => if lo ≤ hi then [(lo, hi)] else []
  | (last, first) :: cuts =>
    (if lo ≤ min hi last then [(lo, min hi last)] else []) ++ cutAt cuts (max lo first) hi

/-- The octets of a code point, of which there are as many as given. -/
def octetsOf (n : Nat) : Nat → List UInt8
  | 1 => [UInt8.ofNat n]
  | 2 => [UInt8.ofNat (0xc0 + n / 64), UInt8.ofNat (0x80 + n % 64)]
  | 3 => [UInt8.ofNat (0xe0 + n / 4096), UInt8.ofNat (0x80 + n / 64 % 64),
      UInt8.ofNat (0x80 + n % 64)]
  | _ => [UInt8.ofNat (0xf0 + n / 262144), UInt8.ofNat (0x80 + n / 4096 % 64),
      UInt8.ofNat (0x80 + n / 64 % 64), UInt8.ofNat (0x80 + n % 64)]

/-- The rows of a range of characters of equal width. Where the last
`6 * level` bits do not run through all values, the range is cut; `level`
counts up to the number of octets. Each cut leaves ranges that need none
on that level, so twice as many steps as there are levels are enough. -/
def rowsOf (width : Nat) : Nat → Nat → Nat → Nat → List (List OctetRange)
  | 0, _, _, _ => []
  | fuel + 1, level, lo, hi =>
    if width ≤ level then
      [List.zipWith OctetRange.mk (octetsOf lo width) (octetsOf hi width)]
    else
      let block := Nat.pow 64 level
      if lo / block == hi / block then rowsOf width fuel (level + 1) lo hi
      else if lo % block != 0 then
        let last := lo / block * block + (block - 1)
        rowsOf width fuel 1 lo last ++ rowsOf width fuel 1 (last + 1) hi
      else if hi % block != block - 1 then
        let first := hi / block * block
        rowsOf width fuel 1 lo (first - 1) ++ rowsOf width fuel 1 first hi
      else rowsOf width fuel (level + 1) lo hi

/-- The number of octets of a character. -/
def octetCount (n : Nat) : Nat :=
  if n ≤ 0x7f then 1 else if n ≤ 0x7ff then 2 else if n ≤ 0xffff then 3 else 4

/-- The rows of a set of characters. -/
def octetRows (s : CharSet) : List (List OctetRange) :=
  s.ranges.flatMap fun r =>
    (cutAt encodingCuts r.1 r.2).flatMap fun (lo, hi) => rowsOf (octetCount lo) 40 1 lo hi

end ScriptMatrix.Regex
