import ScriptMatrix.Path

/-!
# `ScriptMatrix.FileName`: file names for scripts

A script is written to a file named after its descriptor. Only ASCII
letters and digits, dots, underscores, hyphens and equals signs are kept,
so the name is one step below its directory whatever the descriptor is.
Descriptors that come to the same name are told apart by numbers.
-/

set_option autoImplicit false

namespace ScriptMatrix

namespace FileName

/-- A character that a file name keeps. -/
def isKept (c : Char) : Bool :=
  ('a' ≤ c && c ≤ 'z') || ('A' ≤ c && c ≤ 'Z') || ('0' ≤ c && c ≤ '9')
    || c == '.' || c == '_' || c == '=' || c == '-'

/-- The character that stands for one of a descriptor. -/
def safeChar (c : Char) : Char := if c == '/' then '-' else if isKept c then c else '_'

/-- A descriptor as a file name without extension: hyphens at the end are
dropped. -/
def stem (descriptor : String) : List Char :=
  ((descriptor.toList.map safeChar).reverse.dropWhile (· == '-')).reverse

/-- The file for a descriptor. -/
def ofDescriptor (dir : Path) (descriptor : String) : Path :=
  dir.join (String.ofList (stem descriptor ++ ".sh".toList))

/-- The file for a descriptor with a number. -/
def numbered (dir : Path) (descriptor : String) (n : Nat) : Path :=
  dir.join (String.ofList (stem descriptor ++ '-' :: (toString n).toList ++ ".sh".toList))

end FileName

/-- Paths that are different as paths: no two have the same steps. -/
structure PathSet where
  paths : List Path
  deriving Repr

namespace PathSet

/-- No paths. -/
def empty : PathSet := ⟨[]⟩

/-- Whether a path with the same steps is there. -/
def has (s : PathSet) (p : Path) : Bool := s.paths.any (·.components == p.components)

/-- The paths with another one. -/
def insert (s : PathSet) (p : Path) : PathSet := if s.has p then s else ⟨p :: s.paths⟩

/-- The paths of a list. -/
def ofList (ps : List Path) : PathSet := ps.foldl insert empty

/-- How many paths there are. -/
def size (s : PathSet) : Nat := s.paths.length

end PathSet

namespace FileName

/-- The least number from `n` on whose file is not taken, looking at no
more than `fuel` of them. -/
def freeNumber (dir : Path) (descriptor : String) (taken : PathSet) : Nat → Nat → Nat
  | 0, n => n
  | fuel + 1, n =>
    if taken.has (numbered dir descriptor n) then freeNumber dir descriptor taken fuel (n + 1)
    else n

/-- The file for a descriptor that is not taken, without number if
possible, and else with the least from two on. As many numbers as paths
are taken suffice, since different numbers make different files. -/
def unique (dir : Path) (descriptor : String) (taken : PathSet) : Path × PathSet :=
  let plain := ofDescriptor dir descriptor
  let path :=
    if taken.has plain then
      numbered dir descriptor (freeNumber dir descriptor taken taken.size 2)
    else plain
  (path, taken.insert path)

end FileName

end ScriptMatrix
