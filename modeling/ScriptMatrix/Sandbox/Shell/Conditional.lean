import ScriptMatrix.Sandbox.Expression
import ScriptMatrix.Sandbox.Shell.Expansion
import ScriptMatrix.Sandbox.Shell.Test.Basic

/-!
# `ScriptMatrix.Sandbox.Shell.Conditional`: answering double brackets

Words in double brackets are not split. What stands to the right of an
equals sign is a pattern, and of `=~` an expression; characters that are
quoted there stand for themselves.
-/

set_option autoImplicit false

namespace ScriptMatrix.Sandbox.Shell.Act

/-- Keeps what an expression has matched, and its groups. -/
def keepMatches (texts : List Chars) : Act Unit :=
  store "BASH_REMATCH".toList { content := some (Content.ofList texts) }

/-- Whether an expression matches somewhere in a text; none, if it makes no
sense. -/
def matchesExpression (text : Chars) (pattern : List GlobChar) : Act (Option Bool) := do
  let fold ← hasExtra "nocasematch"
  match Expression.read? .extended pattern with
  | none => return none
  | some (e, groups) =>
    match Expression.find? fold e text 0 with
    | none =>
      keepMatches []
      return some false
    | some (start, stop, found) =>
      let part := fun (a b : Nat) => (text.take b).drop a
      let inner := (List.range groups).map fun i =>
        match found.lookup (i + 1) with
        | some (a, b) => part a b
        | none => []
      keepMatches (part start stop :: inner)
      return some true

/-- The answer about two words; none, if the question makes no sense. -/
def answerPair (r : Runner) (op : Chars) (left right : Word) : Act (Option Bool) := do
  let op := String.ofList op
  let a ← expandText r left
  let isPattern := op == "=" || op == "==" || op == "!="
  if isPattern then
    let p ← expandPattern r right
    let fits := Glob.fits (← hasExtra "nocasematch") (Glob.ofChars true p) a
    return some (if op == "!=" then !fits else fits)
  else if op == "=~" then matchesExpression a (← expandPattern r right)
  else
    let b ← expandText r right
    if op == "<" then return some (decide (a < b))
    else if op == ">" then return some (decide (b < a))
    else if comparisons.contains op then
      match ← attempt (do return compares op (← evaluate a) (← evaluate b)) with
      | .ok yes => return some yes
      | .error (.abandoned _) => return some false
      | .error h => throw h
    else return some (← answerFiles op a b)

/-- The answer to a condition; none, if it makes no sense. -/
def answer (r : Runner) : Condition → Act (Option Bool)
  | .word w => return some !(← expandText r w).isEmpty
  | .unary op w => do
    let cs ← expandText r w
    match op with
    | [_, c] => return some (← answerUnary c cs)
    | _ => return some false
  | .binary op left right => answerPair r op left right
  | .negated c => return (← answer r c).map not
  | .both a b => do
    match ← answer r a with
    | some true => answer r b
    | other => return other
  | .either a b => do
    match ← answer r a with
    | some false => answer r b
    | other => return other

end ScriptMatrix.Sandbox.Shell.Act
