import ScriptMatrix.Matrix
import ScriptMatrix.Run.Host
import ScriptMatrix.Run.Report
import ScriptMatrix.Settings

/-!
# `ScriptMatrix.Run.Runner`: running the scripts of a matrix

A runner writes a script to a file, starts the interpreter on it and
waits. A dry run starts nothing. `runMatrix` runs the scripts whose
descriptors are wanted, each with the same overrides, and shows how they
end.
-/

set_option autoImplicit false

namespace ScriptMatrix

/-- A step that may fail, in the monad of a host. -/
abbrev Action (m : Type → Type) := ExceptT Error m

/-- A file operation, with its fault as an error. -/
def Action.ofFault {m : Type → Type} [Monad m] {α : Type} (x : m (Except Fault α)) :
    Action m α :=
  ExceptT.mk do return (← x).mapError .io

/-- What runs scripts. -/
structure Runner where
  settings : RunSettings
  /-- The program to start; a dry run has none. -/
  interpreter : Option Path
  deriving Repr

namespace Runner

variable {m : Type → Type} [Monad m]

/-- The program that an interpreter setting means: a path, which has to
exist, or a name to be searched for. -/
def findInterpreter (h : Host m) (interpreter : String) : Action m Path := do
  let asGiven : Path := ⟨interpreter⟩
  if 1 < asGiven.components.length then
    if ← h.pathExists asGiven then return asGiven
    else throw (.interpreterNotFound interpreter)
  else
    match ← h.findProgram interpreter with
    | some p => return p
    | none => throw (.interpreterNotFound interpreter)

/-- A runner with settings. -/
def create (h : Host m) (settings : RunSettings) (dryRun : Bool) : Action m Runner := do
  if dryRun then return ⟨settings, none⟩
  else return ⟨settings, some (← findInterpreter h settings.interpreter)⟩

/-- Whether nothing is started. -/
def isDryRun (r : Runner) : Bool := r.interpreter.isNone

/-- Where a script with a path setting is written. A relative path starts
where the interpreter is started. -/
def scriptLocation (h : Host m) (r : Runner) (path : Path) : Action m Path := do
  if path.isAbsolute then return path
  let here ← h.currentDir
  let dir := match r.settings.workDir with
    | some work => here.join work.text
    | none => here
  return dir.join path.text

/-- Writes a script: its path, and whether the file is its own. -/
def persist (h : Host m) (r : Runner) (text : Bytes) : Action m (Path × Bool) := do
  match r.settings.scriptPath with
  | some path =>
    let location ← r.scriptLocation h path
    Action.ofFault (h.write location text)
    return (location, false)
  | none => return (← Action.ofFault (h.scratch text), true)

/-- The outcome of a program's end. -/
def outcomeOf (limit : Option Nat) : Exit → Outcome
  | .code n => if n == 0 then .passed else .failed (some n)
  | .killed => .failed none
  | .timedOut => .timedOut (limit.getD 0)

/-- Runs a script. It is an error only if that is not possible. -/
def run (h : Host m) (r : Runner) (s : Script) : Action m TestResult := do
  match r.interpreter with
  | none => return ⟨s.descriptor, .skipped, 0⟩
  | some program =>
    let (path, own) ← r.persist h s.text
    let workDir := r.settings.workDir.getD ⟨"."⟩
    let answer ← (h.start ⟨program, path, workDir, r.settings.timeout⟩ : m _)
    if own then (h.discard path : m Unit)
    let finish ← Action.ofFault (pure answer : m _)
    return ⟨s.descriptor, outcomeOf r.settings.timeout finish.exit, finish.hundredths⟩

/-- Shows text. -/
def say (h : Host m) (text : String) : Action m Unit := (h.output (Text.encode text) : m Unit)

/-- Adds the overrides to a script and runs it; whether to go on, and the
summary with its result. -/
def runNext (h : Host m) (r : Runner) (overrides : List String) (failFast color : Bool)
    (s : Script) (sum : Summary) : Action m (Bool × Summary) := do
  let s ← (s.append overrides : Except Error Script)
  let result ← r.run h s
  say h (Report.resultLine color result)
  if failFast && !result.isGood then
    say h (Report.stopping color)
    return (false, sum.record result)
  else return (true, sum.record result)

/-- Runs the scripts of a matrix with a wanted descriptor. -/
def runMatrix (h : Host m) (r : Runner) (mx : Matrix) (wanted : String → Bool)
    (overrides : List String) (failFast color : Bool) : Action m Summary := do
  say h (Report.heading color mx.name)
  let sum ← mx.visit wanted (r.runNext h overrides failFast color) {}
  say h (Report.summary color sum)
  return sum

end Runner

end ScriptMatrix
