import ScriptMatrix.Axis
import ScriptMatrix.Yaml.Value

/-!
# `ScriptMatrix.Axis.Block`: axes from the data of a block

A block of axes is a mapping from names to lists of values, names and
values all scalars; an empty block has no axes. The first place that is
otherwise, in the order of the block, is the fault.
-/

set_option autoImplicit false

namespace ScriptMatrix

open ScriptMatrix.Yaml (Value Kind)

/-- The first place where block data is no set of axes. -/
inductive AxisFault where
  | notMapping (found : Kind)
  | nameNotScalar (found : Kind)
  | valuesNotList (name : String) (found : Kind)
  | valueNotScalar (name : String) (found : Kind)
  deriving Repr, DecidableEq

/-- The fault in words. -/
def AxisFault.message : AxisFault → String
  | .notMapping found =>
    "expected a mapping of axis name to list of values, found " ++ found.phrase
  | .nameNotScalar found => "axis name must be a scalar, found " ++ found.phrase
  | .valuesNotList name found =>
    "axis '" ++ name ++ "' must be a list of values, found " ++ found.phrase
  | .valueNotScalar name found =>
    "axis '" ++ name ++ "' has a non-scalar value (" ++ found.phrase ++ ")"

/-- The text of a value on a named axis. -/
def Axis.valueOf (name : String) (v : Value) : Except AxisFault String :=
  match v.scalarText? with
  | some text => .ok text
  | none => .error (.valueNotScalar name v.kind)

/-- The axis of an entry: its name, then its values in order. -/
def Axis.ofEntry (key value : Value) : Except AxisFault Axis :=
  match key.scalarText? with
  | none => .error (.nameNotScalar key.kind)
  | some name =>
    match value with
    | .list items => do return ⟨name, ← items.mapM (Axis.valueOf name)⟩
    | v => .error (.valuesNotList name v.kind)

/-- The axes that block data declares. -/
def AxisSet.ofValue : Value → Except AxisFault AxisSet
  | .null => .ok .empty
  | .mapping entries => do return ⟨← entries.mapM fun e => Axis.ofEntry e.1 e.2⟩
  | v => .error (.notMapping v.kind)

end ScriptMatrix
