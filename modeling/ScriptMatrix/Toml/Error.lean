/-!
# `ScriptMatrix.Toml.Error`: why a text is no settings data
-/

set_option autoImplicit false

namespace ScriptMatrix.Toml

/-- What keeps a text from being read as settings. -/
inductive Error where
  /-- The text breaks the grammar. -/
  | malformed (reason : String)
  /-- A key that its table has already. -/
  | duplicateKey (key : String)
  /-- A value of the wrong kind under a key. -/
  | wrongKind (key expected : String)
  deriving Repr, DecidableEq

/-- The error in words. -/
def Error.message : Error → String
  | .malformed reason => reason
  | .duplicateKey key => "duplicate key '" ++ key ++ "'"
  | .wrongKind key expected => "'" ++ key ++ "' is not " ++ expected

end ScriptMatrix.Toml
