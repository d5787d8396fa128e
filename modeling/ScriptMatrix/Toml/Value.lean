/-!
# `ScriptMatrix.Toml.Value`: values of settings

Settings need texts, integers and booleans. Real numbers and points in
time are read as well, but not what they are; only that they are there.
-/

set_option autoImplicit false

namespace ScriptMatrix.Toml

/-- A value under a key. -/
inductive Value where
  | string (s : String)
  | integer (i : Int)
  | real
  | bool (b : Bool)
  /-- A date, a time of day, or both. -/
  | moment
  | array (items : List Value)
  | table (members : List (String × Value))
  deriving Repr

end ScriptMatrix.Toml
