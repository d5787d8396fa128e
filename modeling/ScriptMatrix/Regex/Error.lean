/-!
# `ScriptMatrix.Regex.Error`: why a text is no regular expression
-/

set_option autoImplicit false

namespace ScriptMatrix.Regex

/-- What keeps a text from being a regular expression. -/
inductive Error where
  | unclosedGroup
  | unopenedGroup
  | unclosedClass
  | badClassRange
  | badClassEscape
  | badEscape
  | badHexadecimal
  | badFlags
  | badGroupName
  | repeatedGroupName (name : String)
  | lookAround
  | backReference
  | repetitionOfNothing
  | badCount
  | badWordBoundary
  | unknownProperty (name : String)
  /-- Something that could match inside a character. -/
  | splitsCharacters
  /-- Something that only whole characters can mean, in byte mode. -/
  | needsCharacters
  | tooDeep
  | tooLarge
  deriving Repr, DecidableEq

/-- The error in words. -/
def Error.message : Error → String
  | .unclosedGroup => "unclosed group"
  | .unopenedGroup => "unopened group"
  | .unclosedClass => "unclosed character class"
  | .badClassRange => "invalid character class range"
  | .badClassEscape => "escape sequence not allowed in a character class"
  | .badEscape => "unrecognized escape sequence"
  | .badHexadecimal => "invalid hexadecimal literal"
  | .badFlags => "invalid flags"
  | .badGroupName => "invalid group name"
  | .repeatedGroupName name => "repeated group name '" ++ name ++ "'"
  | .lookAround => "look-around is not supported"
  | .backReference => "back-references are not supported"
  | .repetitionOfNothing => "repetition operator without an expression"
  | .badCount => "invalid repetition count"
  | .badWordBoundary => "invalid word boundary"
  | .unknownProperty name => "unknown character property '" ++ name ++ "'"
  | .splitsCharacters => "pattern can match inside a character"
  | .needsCharacters => "character class not allowed in byte mode"
  | .tooDeep => "pattern is nested too deeply"
  | .tooLarge => "pattern is too large"

end ScriptMatrix.Regex
