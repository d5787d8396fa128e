import ScriptMatrix.CommandLine.Request
import ScriptMatrix.FileName
import ScriptMatrix.Json
import ScriptMatrix.Run.Runner

/-!
# `ScriptMatrix.CommandLine`: carrying out a request

Settings are read first, then the document, then the filter; whatever
fails first is what goes wrong. Nothing is written or run before all of
them are there.
-/

set_option autoImplicit false

namespace ScriptMatrix.CommandLine

/-- How the program ends. -/
inductive Ending where
  /-- Everything was done and nothing failed. -/
  | success
  /-- Everything was done, and some script failed. -/
  | scriptsFailed
  | failed (e : Error)
  /-- The arguments make no sense. -/
  | usage
  deriving Repr

/-- The exit code of the program. -/
def Ending.code : Ending → Nat
  | .success => 0
  | .scriptsFailed | .failed _ => 1
  | .usage => 2

/-- The version of the program. -/
def versionText : String := "matrix-shell 0.1.0\n"

/-- How the program is used. -/
def helpText : String :=
  "Parameterized shell test matrices\n\n" ++
  "Usage: matrix-shell [OPTIONS] <COMMAND>\n\n" ++
  "Commands:\n" ++
  "  list    List the descriptor of every script in a matrix\n" ++
  "  render  Print the rendered scripts, or write them to a directory\n" ++
  "  run     Run every script of a matrix\n\n" ++
  "Options:\n" ++
  "  -v, --verbose          Increase log verbosity\n" ++
  "      --config <CONFIG>  Configuration file\n" ++
  "  -h, --help             Print help\n" ++
  "  -V, --version          Print version\n"

/-- Where settings are looked for if no file is given. -/
def standardSettings (configDir : Path) : Path :=
  (configDir.join "matrix-shell").join "config.toml"

section

variable {m : Type → Type} [Monad m]

/-- The settings in a file. -/
def loadSettings (h : Host m) (path : Path) : Action m Settings := do
  let content ← (h.read path : m _)
  (Settings.ofFile path content : Except Error Settings)

/-- The settings to use: from the file given, or from the standard one if
that exists. -/
def settingsFor (h : Host m) (configDir : Option Path) (given : Option Path) :
    Action m Settings := do
  match given, configDir with
  | some path, _ => loadSettings h path
  | none, none => return {}
  | none, some dir =>
    let path := standardSettings dir
    if ← h.pathExists path then loadSettings h path else return {}

/-- Reads a matrix. -/
def readMatrix (h : Host m) (file : Path) : Action m Matrix := do
  let fs ← (h.files file : m _)
  (Matrix.read fs file : Except Error Matrix)

/-- The filter that a request has, if it has one. -/
def filterFor (r : FilterRequest) : Except Error (Option Filter) :=
  match r.text with
  | none => .ok none
  | some text => (Filter.ofText text r.substring).map some

/-- Lists descriptors, one a line. -/
def listPlain (h : Host m) (mx : Matrix) (filter : Option Filter) : Action m Unit :=
  mx.visit filter (fun s _ => do
    Runner.say h (s.descriptor ++ "\n")
    return (true, ())) ()

/-- A script in a listing as data. -/
def listEntry (s : Script) : Json :=
  .object [("descriptor", .string s.descriptor), ("params", .ofEntries s.binding.entries)]

/-- Lists descriptors and parameters as data. -/
def listJson (h : Host m) (mx : Matrix) (filter : Option Filter) : Action m Unit :=
  Runner.say h ((Json.array ((mx.scripts filter).map listEntry)).pretty 0 ++ "\n")

/-- Shows a script under its descriptor. -/
def showScript (h : Host m) (s : Script) : Action m Unit :=
  (h.output (Text.encode ("# ==> " ++ s.descriptor ++ "\n") ++ s.text ++ [newlineByte]) : m Unit)

/-- Writes a script to a file that no other script has, and shows the
path. -/
def writeScript (h : Host m) (dir : Path) (s : Script) (taken : PathSet) : Action m PathSet := do
  let (path, taken) := FileName.unique dir s.descriptor taken
  Action.ofFault (h.write path s.text)
  Runner.say h (path.text ++ "\n")
  return taken

/-- Renders scripts with overrides, to the output or to a directory. -/
def render (h : Host m) (mx : Matrix) (filter : Option Filter) (params : List String)
    (dir : Option Path) : Action m Unit := do
  if let some d := dir then Action.ofFault (h.makeDirectories d)
  let _ ← mx.visit filter (fun s taken => do
    let s ← (s.append params : Except Error Script)
    match dir with
    | some d => return (true, ← writeScript h d s taken)
    | none =>
      showScript h s
      return (true, taken)) PathSet.empty

/-- Settings with what the arguments say instead. -/
def adjust (s : RunSettings) (timeout : Option Nat) (interpreter : Option String) : RunSettings :=
  { s with
    timeoutSeconds := timeout.getD s.timeoutSeconds
    interpreter := interpreter.getD s.interpreter }

/-- Carries out a command: whether all scripts passed. -/
def perform (h : Host m) (settings : Settings) (color : Bool) : Command → Action m Bool
  | .list file filter json => do
    let mx ← readMatrix h file
    let f ← (filterFor filter : Except Error _)
    if json then listJson h mx f else listPlain h mx f
    return true
  | .render file filter params dir => do
    let mx ← readMatrix h file
    let f ← (filterFor filter : Except Error _)
    render h mx f params dir
    return true
  | .run file filter params dryRun failFast timeout interpreter => do
    let mx ← readMatrix h file
    let f ← (filterFor filter : Except Error _)
    let runner ← Runner.create h (adjust settings.run timeout interpreter) dryRun
    let sum ← runner.runMatrix h mx f params failFast (color && settings.color)
    return sum.success

/-- Carries out a request. -/
def answer (h : Host m) (configDir : Option Path) (color : Bool) (r : Request) :
    Action m Bool := do
  let settings ← settingsFor h configDir r.settings
  perform h settings color r.command

/-- Does what the arguments ask for. `configDir` is where the user's
settings are, and `color` whether the output can show colours. -/
def run (h : Host m) (configDir : Option Path) (color : Bool) (args : List String) :
    m Ending := do
  match Request.read args with
  | .error .usage => return .usage
  | .error .help =>
    h.output (Text.encode helpText)
    return .success
  | .error .version =>
    h.output (Text.encode versionText)
    return .success
  | .ok r =>
    match ← (answer h configDir color r).run with
    | .ok true => return .success
    | .ok false => return .scriptsFailed
    | .error e => return .failed e

end

end ScriptMatrix.CommandLine
