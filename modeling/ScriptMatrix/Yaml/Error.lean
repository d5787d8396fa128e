/-!
# `ScriptMatrix.Yaml.Error`: why a text is no block data
-/

set_option autoImplicit false

namespace ScriptMatrix.Yaml

/-- What keeps a text from being read as a value. -/
inductive Error where
  /-- A character that no text of the language may hold. -/
  | forbiddenCharacter (c : Char)
  /-- The text breaks the grammar on the given line. -/
  | malformed (line : Nat) (reason : String)
  /-- An alias without an anchor of its name in front of it. -/
  | unknownAnchor (name : String)
  /-- A key that the mapping has already. -/
  | duplicateKey
  /-- Lists and mappings nested beyond the limit. -/
  | tooDeep
  /-- Aliases that stand for more than the text is worth. -/
  | tooManyAliases
  /-- A second document in the text. -/
  | secondDocument
  /-- A scalar that is not what its tag, or its form, promises. -/
  | badScalar (text expected : String)
  deriving Repr, DecidableEq

/-- The error in words. -/
def Error.message : Error → String
  | .forbiddenCharacter c => "control character U+" ++ String.ofList (Nat.toDigits 16 c.toNat)
      ++ " is not allowed"
  | .malformed line reason => reason ++ " at line " ++ toString line
  | .unknownAnchor name => "unknown anchor '" ++ name ++ "'"
  | .duplicateKey => "duplicate key in a mapping"
  | .tooDeep => "nesting is too deep"
  | .tooManyAliases => "aliases repeat too much"
  | .secondDocument => "more than one document"
  | .badScalar text expected => "'" ++ text ++ "' is not " ++ expected

end ScriptMatrix.Yaml
