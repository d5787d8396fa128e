import ScriptMatrix.Unicode.Table

/-!
# `ScriptMatrix.Unicode.Partition`: characters divided into classes

Every character is in one class of a partition. Classes are known by their
names, and a class without a name cannot be asked for.
-/

set_option autoImplicit false

namespace ScriptMatrix.Unicode

/-- A division of all characters into classes. -/
structure Partition where
  /-- The names of each class. -/
  names : List (List String)
  /-- One run of characters after the other: the number of its class, then
  its length less one. -/
  table : String

namespace Partition

/-- The number of the class with a name. -/
def index? (p : Partition) (name : String) : Option Nat :=
  p.names.findIdx? fun aliases => aliases.contains name

/-- The characters of the classes whose number is wanted. -/
def select (p : Partition) (wanted : Nat → Bool) : CharSet :=
  .ofRanges (Table.select (Table.runs p.table) wanted)

/-- The characters of the class with a name. -/
def find? (p : Partition) (name : String) : Option CharSet :=
  (p.index? name).map fun i => p.select (· == i)

end Partition

end ScriptMatrix.Unicode
