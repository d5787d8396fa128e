import ScriptMatrix.Run.Outcome

/-!
# `ScriptMatrix.Run.Report`: what is shown of a run

A run shows its matrix, a line for each script, and a summary. Where
colours are allowed, parts are put between a code that starts a style and
one that ends it.
-/

set_option autoImplicit false

namespace ScriptMatrix.Report

/-- The code that ends every style. -/
def ending : String := "\x1b[0m"

/-- Text in a style, if colours are allowed. Where the text itself ends all
styles, its style starts again. -/
def styled (color : Bool) (style text : String) : String :=
  let code := "\x1b[" ++ style ++ "m"
  if color then code ++ (ending ++ code).intercalate (text.splitOn ending) ++ ending else text

/-- Hundredths of a second as seconds. -/
def seconds (hundredths : Nat) : String :=
  let rest := hundredths % 100
  toString (hundredths / 100) ++ "." ++ (if rest < 10 then "0" else "") ++ toString rest

/-- What comes first. -/
def heading (color : Bool) (matrixName : String) : String :=
  "\n" ++ styled color "1;34" "Running Matrix:" ++ " " ++ styled color "1;37" matrixName ++ "\n"

/-- A line on a script: a mark, the descriptor and a remark. -/
def row (mark descriptor remark : String) : String :=
  "  " ++ mark ++ " " ++ descriptor ++ " " ++ remark ++ "\n"

/-- The line on a script that has ended. -/
def resultLine (color : Bool) (r : TestResult) : String :=
  match r.outcome with
  | .passed =>
    row (styled color "32" "✓") r.descriptor
      (styled color "2" ("(" ++ seconds r.hundredths ++ "s)"))
  | .skipped => row (styled color "2" "-") r.descriptor (styled color "2" "(dry run)")
  | .failed code =>
    let shown := match code with
      | some c => toString c
      | none => "signal"
    row (styled color "31" "✗") r.descriptor (styled color "31" ("exit code " ++ shown))
  | .timedOut limit =>
    row (styled color "31" "✗") r.descriptor
      (styled color "31" ("timed out after " ++ toString limit ++ "s"))

/-- What is shown when the first failure ends a run. -/
def stopping (color : Bool) : String :=
  "  " ++ styled color "33" "Stopping after first failure" ++ "\n"

/-- The counts of a summary, and the scripts that failed. -/
def summary (color : Bool) (s : Summary) : String :=
  let counts := toString s.passed ++ " passed, " ++ toString s.skipped ++ " skipped"
  if s.success then
    "\n" ++ styled color "1;32" "✓" ++ " " ++ styled color "1;32" counts ++ "\n\n"
  else
    "\n" ++ styled color "1;31" "✗" ++ " "
      ++ styled color "1;31" (toString s.failed.length ++ " failed, " ++ counts) ++ "\n"
      ++ String.join (s.failed.map fun d => "  " ++ styled color "31" d ++ "\n") ++ "\n"

end ScriptMatrix.Report
