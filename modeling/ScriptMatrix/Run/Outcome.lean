import ScriptMatrix.Error

/-!
# `ScriptMatrix.Run.Outcome`: how scripts end

A script passes if its interpreter ends with exit code zero. A summary
counts outcomes and lists the scripts that failed, in the order they were
run.
-/

set_option autoImplicit false

namespace ScriptMatrix

/-- How a script ended. -/
inductive Outcome where
  | passed
  /-- With another exit code than zero, or killed. -/
  | failed (code : Option Int)
  | timedOut (seconds : Nat)
  /-- It was not run. -/
  | skipped
  deriving Repr, DecidableEq

/-- Whether an outcome is no failure. -/
def Outcome.isGood : Outcome → Bool
  | .passed | .skipped => true
  | .failed _ | .timedOut _ => false

/-- What is known about a script that has ended. -/
structure TestResult where
  descriptor : String
  outcome : Outcome
  /-- How long it took, in hundredths of a second. -/
  hundredths : Nat
  deriving Repr, DecidableEq

namespace TestResult

/-- Whether the script did not fail. -/
def isGood (r : TestResult) : Bool := r.outcome.isGood

/-- The result, or a failure as an error. -/
def check (r : TestResult) : Except Error TestResult :=
  match r.outcome with
  | .passed | .skipped => .ok r
  | .failed code => .error (.scriptFailed r.descriptor code)
  | .timedOut seconds => .error (.scriptTimedOut r.descriptor seconds)

end TestResult

/-- The outcomes of several scripts. -/
structure Summary where
  passed : Nat := 0
  /-- The descriptors of the scripts that failed. -/
  failed : List String := []
  skipped : Nat := 0
  deriving Repr, DecidableEq

namespace Summary

/-- How many scripts there were. -/
def total (s : Summary) : Nat := s.passed + s.failed.length + s.skipped

/-- Whether none failed. -/
def success (s : Summary) : Bool := s.failed.isEmpty

/-- The summary with another result. -/
def record (s : Summary) (r : TestResult) : Summary :=
  match r.outcome with
  | .passed => { s with passed := s.passed + 1 }
  | .skipped => { s with skipped := s.skipped + 1 }
  | .failed _ | .timedOut _ => { s with failed := s.failed ++ [r.descriptor] }

end Summary

end ScriptMatrix
