import ScriptMatrix.Sandbox.Shell.Test.Counted
import ScriptMatrix.Sandbox.Shell.Test.Marked

/-!
# `ScriptMatrix.Sandbox.Shell.Test`: the command that asks questions

The status of `test` is the answer: zero for yes, one for no, and two for a
question that makes no sense.
-/

set_option autoImplicit false

namespace ScriptMatrix.Sandbox.Shell.Act

/-- Carries out `test`: its status. -/
def test (name : Chars) (ts : List Chars) : Act Nat := do
  let answer ← match (← process).dialect with
    | .extended => (testCounted ts).run
    | .plain => (testMarked 4 false ts).run
  match answer with
  | .ok true => return 0
  | .ok false => return 1
  | .error e =>
    complain (name ++ ": ".toList ++ e.message)
    return 2

end ScriptMatrix.Sandbox.Shell.Act
