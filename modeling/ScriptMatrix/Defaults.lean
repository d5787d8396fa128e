import ScriptMatrix.Yaml.Value

/-!
# `ScriptMatrix.Defaults`: parameters that every script starts with

Default parameters stand in a block either as a mapping or as a list of
mappings with one entry each. Both give the entries in the order of the
block; a list may repeat a name.
-/

set_option autoImplicit false

namespace ScriptMatrix

open ScriptMatrix.Yaml (Value)

/-- Default parameters with their values, in the order of their block. -/
structure Defaults where
  entries : List (String × String)
  deriving Repr, DecidableEq

/-- The first place where block data is no set of default parameters. -/
inductive DefaultsFault where
  | neitherMappingNorList
  | itemNotSingle
  | nameNotScalar
  | valueNotScalar (name : String)
  deriving Repr, DecidableEq

/-- The fault in words. -/
def DefaultsFault.message : DefaultsFault → String
  | .neitherMappingNorList => "expected a mapping or a list of `key: value` entries"
  | .itemNotSingle => "list items must each be a single `key: value` entry"
  | .nameNotScalar => "parameter names must be scalars"
  | .valueNotScalar name => "value of '" ++ name ++ "' must be a scalar"

namespace Defaults

/-- No default parameters. -/
def empty : Defaults := ⟨[]⟩

/-- A name and its value, the name looked at first. -/
def entryOf (key value : Value) : Except DefaultsFault (String × String) :=
  match key.scalarText?, value.scalarText? with
  | none, _ => .error .nameNotScalar
  | some name, none => .error (.valueNotScalar name)
  | some name, some text => .ok (name, text)

/-- The entry of a list item. -/
def entryOfItem : Value → Except DefaultsFault (String × String)
  | .mapping [(key, value)] => entryOf key value
  | _ => .error .itemNotSingle

/-- The default parameters that block data declares. -/
def ofValue : Value → Except DefaultsFault Defaults
  | .null => .ok .empty
  | .mapping entries => do return ⟨← entries.mapM fun e => entryOf e.1 e.2⟩
  | .list items => do return ⟨← items.mapM entryOfItem⟩
  | _ => .error .neitherMappingNorList

end Defaults

end ScriptMatrix
