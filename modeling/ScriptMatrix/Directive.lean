import ScriptMatrix.Text.Blank
import ScriptMatrix.Text.Utf8

/-!
# `ScriptMatrix.Directive`: what a line of a document means

A line opens a block of axes or of default parameters, includes another
document, or belongs to the body. The headers and the line that closes a
block have to match exactly. An include is `#include` and a path, with
blanks between them and perhaps around them.
-/

set_option autoImplicit false

namespace ScriptMatrix

/-- The two kinds of blocks. -/
inductive BlockKind where
  | params
  | defaultParams
  deriving Repr, DecidableEq

namespace BlockKind

/-- What messages call a block. -/
def name : BlockKind → String
  | .params => "params"
  | .defaultParams => "default_params"

/-- The line that opens a block. -/
def header (k : BlockKind) : Bytes := Text.encode (k.name ++ ":")

end BlockKind

/-- The line that closes a block. -/
def blockEnd : Bytes := Text.encode "end"

/-- What a line outside a block means. -/
inductive Directive where
  | block (kind : BlockKind)
  | inclusion (path : String)
  | text
  deriving Repr, DecidableEq

namespace Directive

/-- The word that an include begins with. -/
def includeWord : List Char := "#include".toList

/-- The path of an include: what stands behind the word and at least one
blank, without the blanks around it, on one line. -/
def includePath? (line : List Char) : Option (List Char) :=
  let cs := Text.trimStart line
  if includeWord.isPrefixOf cs then
    match cs.drop includeWord.length with
    | [] => none
    | c :: rest =>
      let path := Text.trim rest
      if Text.isBlank c && !path.isEmpty && !path.contains '\n' then some path else none
  else none

/-- What a line means. A line that is not text can only be body. -/
def classify (line : Bytes) : Directive :=
  if line == BlockKind.params.header then .block .params
  else if line == BlockKind.defaultParams.header then .block .defaultParams
  else match Text.decode line with
    | .error _ => .text
    | .ok s =>
      match includePath? s.toList with
      | some path => .inclusion (String.ofList path)
      | none => .text

end Directive

end ScriptMatrix
