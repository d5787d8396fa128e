import ScriptMatrix.Text.Utf8

/-!
# `ScriptMatrix.Yaml.Token`: the lexical units of block data
-/

set_option autoImplicit false

namespace ScriptMatrix.Yaml

/-- What a token is. Block collections have no marks of their own in the
text: their beginnings and ends follow from the indentation, and so do
the keys that no `?` announces. What a tag says is bytes, since percent
escapes can write any. -/
inductive TokenKind where
  | versionDirective (major minor : Nat)
  | tagDirective (handle : String) (expansion : Bytes)
  | documentStart
  | documentEnd
  | blockListStart
  | blockMappingStart
  | blockEnd
  | flowListStart
  | flowListEnd
  | flowMappingStart
  | flowMappingEnd
  | flowEntry
  | blockEntry
  | key
  | value
  | alias (name : String)
  | anchor (name : String)
  | tag (handle : String) (suffix : Bytes)
  | scalar (text : String) (plain : Bool)
  | streamEnd
  deriving Repr, DecidableEq

/-- A token and the line it stands on, counted from one. -/
structure Token where
  kind : TokenKind
  line : Nat
  deriving Repr, DecidableEq

end ScriptMatrix.Yaml
