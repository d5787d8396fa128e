/-!
# `ScriptMatrix.Shell.Name`: names of shell variables

A shell variable has a name of ASCII letters, digits and underscores that
does not begin with a digit.
-/

set_option autoImplicit false

namespace ScriptMatrix.Shell

/-- A character that a name may begin with. -/
def isNameStart (c : Char) : Bool :=
  c == '_' || ('a' ≤ c && c ≤ 'z') || ('A' ≤ c && c ≤ 'Z')

/-- A character that may follow in a name. -/
def isNameChar (c : Char) : Bool := isNameStart c || ('0' ≤ c && c ≤ '9')

/-- Whether a text is the name of a shell variable. -/
def isName : List Char → Bool
  | [] => false
  | c :: cs => isNameStart c && cs.all isNameChar

end ScriptMatrix.Shell
