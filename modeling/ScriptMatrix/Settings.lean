import ScriptMatrix.Error
import ScriptMatrix.Toml.Document

/-!
# `ScriptMatrix.Settings`: how scripts are run

Settings come from a file with two sections, `runner` and `output`. What
the file does not set has a standard value, and keys that mean nothing
are passed over. A section may also be a plain list of its values, and a
point in time is a section that sets nothing.
-/

set_option autoImplicit false

namespace ScriptMatrix

open ScriptMatrix.Toml (Value)

/-- How scripts are run. -/
structure RunSettings where
  /-- The program that runs a script: a name to search for, or a path. -/
  interpreter : String := "bash"
  /-- How long a script may run; zero is no limit. -/
  timeoutSeconds : Nat := 0
  /-- Where to write scripts; without it they get files of their own. -/
  scriptPath : Option Path := none
  /-- Where scripts are started; without it in the current directory. -/
  workDir : Option Path := none
  deriving Repr, DecidableEq

/-- All settings. -/
structure Settings where
  run : RunSettings := {}
  /-- Whether output may be coloured. -/
  color : Bool := true
  deriving Repr, DecidableEq

/-- The time limit, if there is one. -/
def RunSettings.timeout (s : RunSettings) : Option Nat :=
  if s.timeoutSeconds == 0 then none else some s.timeoutSeconds

namespace Settings

/-- A text under a key. -/
def textOf (key : String) : Value → Except Toml.Error String
  | .string s => .ok s
  | _ => .error (.wrongKind key "a text")

/-- A count under a key. -/
def countOf (key : String) : Value → Except Toml.Error Nat
  | .integer i => if i < 0 then .error (.wrongKind key "a count") else .ok i.toNat
  | _ => .error (.wrongKind key "a count")

/-- A switch under a key. -/
def switchOf (key : String) : Value → Except Toml.Error Bool
  | .bool b => .ok b
  | _ => .error (.wrongKind key "true or false")

/-- What a key has in a section, or the standard value. -/
def member {α : Type} (members : List (String × Value)) (key : String) (standard : α)
    (read : String → Value → Except Toml.Error α) : Except Toml.Error α :=
  match members.lookup key with
  | none => .ok standard
  | some v => read key v

/-- A path under a key that may be missing. -/
def pathOf (key : String) (v : Value) : Except Toml.Error (Option Path) := do
  return some ⟨← textOf key v⟩

/-- The section on running scripts. -/
def runSection : Value → Except Toml.Error RunSettings
  | .table ms => do
    return {
      interpreter := ← member ms "interpreter" "bash" textOf
      timeoutSeconds := ← member ms "timeout_secs" 0 countOf
      scriptPath := ← member ms "script_path" none pathOf
      workDir := ← member ms "work_dir" none pathOf }
  | .array (interpreter :: timeout :: scriptPath :: workDir :: _) => do
    return {
      interpreter := ← textOf "interpreter" interpreter
      timeoutSeconds := ← countOf "timeout_secs" timeout
      scriptPath := ← pathOf "script_path" scriptPath
      workDir := ← pathOf "work_dir" workDir }
  | .moment => .ok {}
  | _ => .error (.wrongKind "runner" "a table")

/-- The section on output: whether it may be coloured. -/
def outputSection : Value → Except Toml.Error Bool
  | .table ms => member ms "color" true switchOf
  | .array [] => .ok true
  | .array (color :: _) => switchOf "color" color
  | .moment => .ok true
  | _ => .error (.wrongKind "output" "a table")

/-- The settings that a table describes. -/
def ofTable (ms : List (String × Value)) : Except Toml.Error Settings := do
  return {
    run := ← member ms "runner" {} fun _ => runSection
    color := ← member ms "output" true fun _ => outputSection }

/-- The settings that a text describes. -/
def parse (text : String) : Except Toml.Error Settings := do ofTable (← Toml.read text)

/-- The settings in a file with the given content. -/
def ofFile (path : Path) (content : Except Fault Bytes) : Except Error Settings :=
  match content with
  | .error fault => .error (.unreadable path fault)
  | .ok b =>
    match Text.decode b with
    | .error _ => .error (.unreadable path .notUtf8)
    | .ok text => (parse text).mapError .malformedSettings

end Settings

end ScriptMatrix
