/-!
# `ScriptMatrix.Binding`: one choice of parameter values

A binding pairs every axis with one of its values, in the order of the
axes. `Binding.text` is how it is shown and `Binding.descriptor` how it
identifies a script of a named matrix.
-/

set_option autoImplicit false

namespace ScriptMatrix

/-- Names with their values, in order. -/
structure Binding where
  entries : List (String × String)
  deriving Repr, DecidableEq

namespace Binding

/-- The value of the first entry with a name. -/
def get? (b : Binding) (name : String) : Option String := b.entries.lookup name

/-- The pairs `name=value` with a blank between them. -/
def text (b : Binding) : String :=
  " ".intercalate (b.entries.map fun e => e.1 ++ "=" ++ e.2)

/-- A value as a descriptor shows it: an underscore for every space. -/
def descriptorValue (value : String) : String :=
  String.ofList (value.toList.map fun c => if c == ' ' then '_' else c)

/-- What identifies the script of a binding: the name of the matrix, a
slash, and the pairs `name=value` joined by double underscores. -/
def descriptor (matrixName : String) (b : Binding) : String :=
  matrixName ++ "/" ++
    "__".intercalate (b.entries.map fun e => e.1 ++ "=" ++ descriptorValue e.2)

end Binding

end ScriptMatrix
