import ScriptMatrix.Regex.Automaton.Size
import ScriptMatrix.Regex.Match
import ScriptMatrix.Regex.Meaning
import ScriptMatrix.Regex.Reader

/-!
# `ScriptMatrix.Regex`: regular expressions

A regular expression is read once and then tested on texts. It matches a
text if it matches any part of it; `^` and `$` tie it to the ends.
-/

set_option autoImplicit false

namespace ScriptMatrix

/-- A regular expression. -/
structure Regex where
  expr : Regex.Expr
  deriving Repr

namespace Regex

/-- The regular expression that a text writes. -/
def ofText (text : String) : Except Error Regex := do
  let p ← Pattern.read text
  let (e, _) ← p.expr.run {}
  e.checkSize
  return ⟨e⟩

/-- Whether an expression matches a part of a text. -/
def matchesIn (r : Regex) (text : String) : Bool := r.expr.matchesIn text.toList

end Regex

end ScriptMatrix
