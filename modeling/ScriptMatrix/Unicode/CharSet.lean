/-!
# `ScriptMatrix.Unicode.CharSet`: sets of characters

A set is a list of ranges of code points, in ascending order and with a
gap between any two. Membership of a character is membership of its code.
-/

set_option autoImplicit false

namespace ScriptMatrix.Unicode

/-- Ranges of code points, both ends included, ascending and apart. -/
structure CharSet where
  ranges : List (Nat × Nat)
  deriving Repr, DecidableEq

/-- The largest code point. -/
def lastCode : Nat := 0x10ffff

namespace CharSet

/-- The empty set. -/
def empty : CharSet := ⟨[]⟩

/-- All characters from one code point to another. -/
def range (lo hi : Nat) : CharSet := ⟨[(lo, hi)]⟩

/-- All characters. -/
def all : CharSet := range 0 lastCode

/-- The set of one character. -/
def single (c : Char) : CharSet := range c.toNat c.toNat

/-- Whether a code point is in one of some ascending ranges. -/
def inRanges (n : Nat) : List (Nat × Nat) → Bool
  | [] => false
  | r :: rs => r.1 ≤ n && (n ≤ r.2 || inRanges n rs)

/-- Whether a code point is in the set. -/
def hasCode (s : CharSet) (n : Nat) : Bool := inRanges n s.ranges

/-- Whether a character is in the set. -/
def has (s : CharSet) (c : Char) : Bool := s.hasCode c.toNat

/-- Joins ranges that overlap or touch, in a list with ascending lower
ends, with `lo` and `hi` in front. -/
def joinFrom (lo hi : Nat) : List (Nat × Nat) → List (Nat × Nat)
  | [] => [(lo, hi)]
  | r :: rs => if r.1 ≤ hi + 1 then joinFrom lo (max hi r.2) rs else (lo, hi) :: joinFrom r.1 r.2 rs

/-- The set of ranges with ascending lower ends. -/
def ofRanges : List (Nat × Nat) → CharSet
  | [] => empty
  | r :: rs => ⟨joinFrom r.1 r.2 rs⟩

/-- The characters in either set. -/
def union (a b : CharSet) : CharSet :=
  ofRanges (List.merge a.ranges b.ranges fun r r' => r.1 ≤ r'.1)

/-- The set of some code points. -/
def ofList (codes : List Nat) : CharSet :=
  ofRanges ((codes.mergeSort (· ≤ ·)).map fun n => (n, n))

/-- What lies between ranges, from a code point on. -/
def gapsFrom (start : Nat) : List (Nat × Nat) → List (Nat × Nat)
  | [] => if start ≤ lastCode then [(start, lastCode)] else []
  | r :: rs =>
    if start < r.1 then (start, r.1 - 1) :: gapsFrom (r.2 + 1) rs else gapsFrom (r.2 + 1) rs

/-- The characters that are not in the set. -/
def complement (s : CharSet) : CharSet := ⟨gapsFrom 0 s.ranges⟩

/-- The characters in both sets. -/
def inter (a b : CharSet) : CharSet := (a.complement.union b.complement).complement

/-- The characters in the first set only. -/
def diff (a b : CharSet) : CharSet := a.inter b.complement

/-- The characters in exactly one of the sets. -/
def symmDiff (a b : CharSet) : CharSet := (a.union b).diff (a.inter b)

/-- Whether all members are ASCII. -/
def isAscii (s : CharSet) : Bool := s.ranges.all fun r => r.2 ≤ 0x7f

end CharSet

end ScriptMatrix.Unicode
