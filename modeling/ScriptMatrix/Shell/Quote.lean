/-!
# `ScriptMatrix.Shell.Quote`: values as shell words

A shell reads everything between two single quotes literally. `quote`
puts a value between such quotes; a single quote inside ends the quoted
part, follows as an escaped quote, and a new quoted part begins.
-/

set_option autoImplicit false

namespace ScriptMatrix.Shell

/-- The text between the outer quotes of a quoted value. -/
def quotedBody : List Char → List Char
  | [] => []
  | c :: cs => if c == '\'' then ['\'', '\\', '\'', '\''] ++ quotedBody cs else c :: quotedBody cs

/-- A value as one shell word. -/
def quoteChars (value : List Char) : List Char := '\'' :: quotedBody value ++ ['\'']

/-- A value as one shell word. -/
def quote (value : String) : String := String.ofList (quoteChars value.toList)

end ScriptMatrix.Shell
