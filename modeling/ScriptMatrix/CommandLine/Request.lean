import ScriptMatrix.CommandLine.Options
import ScriptMatrix.Path

/-!
# `ScriptMatrix.CommandLine.Request`: what the arguments ask for

There are three commands: to list the descriptors of a matrix, to render
its scripts, and to run them. Each names a document and may have a
filter. A settings file can be given in front of the command or behind
it, and there it counts.
-/

set_option autoImplicit false

namespace ScriptMatrix.CommandLine

/-- A filter as given. -/
structure FilterRequest where
  text : Option String
  substring : Bool
  deriving Repr

/-- A command with its document and options. -/
inductive Command where
  | list (file : Path) (filter : FilterRequest) (json : Bool)
  | render (file : Path) (filter : FilterRequest) (params : List String) (output : Option Path)
  | run (file : Path) (filter : FilterRequest) (params : List String) (dryRun failFast : Bool)
      (timeout : Option Nat) (interpreter : Option String)
  deriving Repr

/-- A command, and the settings file to use. -/
structure Request where
  settings : Option Path
  command : Command
  deriving Repr

/-- The options that may stand anywhere. -/
def globalOptions : List OptionSpec := [
  ⟨"verbose", some 'v', .tally⟩,
  ⟨"config", none, .path⟩,
  ⟨"help", some 'h', .help⟩]

/-- The options in front of a command. -/
def leadingOptions : List OptionSpec := globalOptions ++ [⟨"version", some 'V', .version⟩]

/-- The options of a filter. -/
def filterOptions : List OptionSpec := [
  ⟨"filter", some 'f', .text⟩,
  ⟨"substring", none, .flag⟩]

/-- The options of listing. -/
def listOptions : List OptionSpec := globalOptions ++ filterOptions ++ [⟨"json", none, .flag⟩]

/-- The options of rendering. -/
def renderOptions : List OptionSpec := globalOptions ++ filterOptions ++ [
  ⟨"param", some 'p', .texts⟩,
  ⟨"output", some 'o', .path⟩]

/-- The options of running. -/
def runOptions : List OptionSpec := globalOptions ++ filterOptions ++ [
  ⟨"param", some 'p', .texts⟩,
  ⟨"dry-run", none, .flag⟩,
  ⟨"fail-fast", none, .flag⟩,
  ⟨"timeout", none, .number⟩,
  ⟨"interpreter", none, .text⟩]

/-- The filter among some options. -/
def filterOf (p : Parsed) : FilterRequest := ⟨p.value? "filter", p.has "substring"⟩

/-- The listing that options ask for. -/
def listOf (p : Parsed) (file : Path) : Command := .list file (filterOf p) (p.has "json")

/-- The rendering that options ask for. -/
def renderOf (p : Parsed) (file : Path) : Command :=
  .render file (filterOf p) (p.values "param") ((p.value? "output").map Path.mk)

/-- The run that options ask for. -/
def runOf (p : Parsed) (file : Path) : Command :=
  .run file (filterOf p) (p.values "param") (p.has "dry-run") (p.has "fail-fast")
    ((p.value? "timeout").bind number?) (p.value? "interpreter")

/-- The options of a command, and how they make a request. -/
def commandOf? (name : String) : Option (List OptionSpec × (Parsed → Path → Command)) :=
  match name with
  | "list" | "ls" => some (listOptions, listOf)
  | "render" => some (renderOptions, renderOf)
  | "run" => some (runOptions, runOf)
  | _ => none

/-- What the command for help says to the names behind it. -/
def helpFor : List String → Stop
  | [] => .help
  | [name] => if (commandOf? name).isSome || name == "help" then .help else .usage
  | _ => .usage

/-- The request that arguments make. -/
def Request.read (args : List String) : Except Stop Request := do
  let (leading, name, rest) ← readLeading leadingOptions args.length .empty args
  if name == "help" then throw (helpFor rest)
  match commandOf? name with
  | none => throw .usage
  | some (specs, make) =>
    let p ← readArguments specs rest.length .empty rest
    match p.positions with
    | [file] =>
      if file.isEmpty then throw .usage
      let settings := (p.value? "config").or (leading.value? "config")
      return ⟨settings.map Path.mk, make p ⟨file⟩⟩
    | _ => throw .usage

end ScriptMatrix.CommandLine
