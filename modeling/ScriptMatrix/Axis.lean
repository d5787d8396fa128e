/-!
# `ScriptMatrix.Axis`: parameters and the values they range over

An axis is a parameter with its candidate values. An `AxisSet` is an
ordered list of axes and spans the product of their values: one test
script for every way to pick a value on each axis. `bindingCount` is the
size of that product as far as a 64-bit count can hold it.
-/

set_option autoImplicit false

namespace ScriptMatrix

/-- A named parameter with its candidate values in order. -/
structure Axis where
  name : String
  values : List String
  deriving Repr, DecidableEq

/-- The axes of a matrix in the order of their declaration. -/
structure AxisSet where
  axes : List Axis
  deriving Repr, DecidableEq

/-- The first number that a 64-bit count cannot hold. -/
def countBound : Nat := Nat.pow 2 64

/-- Multiplies two counts, unless the result is too large for a count. -/
def mulCount? (a b : Nat) : Option Nat :=
  if a * b < countBound then some (a * b) else none

namespace AxisSet

/-- No axes at all. -/
def empty : AxisSet := ⟨[]⟩

/-- The number of axes. -/
def length (s : AxisSet) : Nat := s.axes.length

/-- The number of values on each axis. -/
def sizes (s : AxisSet) : List Nat := s.axes.map (·.values.length)

/-- The number of bindings, multiplied up axis by axis; `none` once a
partial product is too large for a count. -/
def bindingCount (s : AxisSet) : Option Nat := s.sizes.foldlM mulCount? 1

end AxisSet

end ScriptMatrix
