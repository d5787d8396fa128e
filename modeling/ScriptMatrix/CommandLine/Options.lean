/-!
# `ScriptMatrix.CommandLine.Options`: reading arguments

Arguments are options and positions. An option has a long name, perhaps a
letter, and a kind. A value is attached with `=` or is the next argument,
which then may not look like an option. Letters can be joined, the last
one with its value. After `--` everything is a position.
-/

set_option autoImplicit false

namespace ScriptMatrix.CommandLine

/-- What an option takes, and how often it may be given. -/
inductive OptionKind where
  /-- No value, once. -/
  | flag
  /-- No value, any number of times. -/
  | tally
  /-- A text, once. -/
  | text
  /-- A text, any number of times. -/
  | texts
  /-- A path, which may not be empty, once. -/
  | path
  /-- A natural number of 64 bits, once. -/
  | number
  /-- No value; asks for help. -/
  | help
  /-- No value; asks for the version. -/
  | version
  deriving Repr, DecidableEq

/-- An option that a command knows. -/
structure OptionSpec where
  name : String
  letter : Option Char
  kind : OptionKind
  deriving Repr

/-- Why reading arguments ends early. -/
inductive Stop where
  /-- The arguments make no sense. -/
  | usage
  | help
  | version
  deriving Repr, DecidableEq

/-- Options with their values and positions, in order. -/
structure Parsed where
  options : List (String × String)
  positions : List String
  deriving Repr

namespace Parsed

/-- Nothing yet. -/
def empty : Parsed := ⟨[], []⟩

/-- Whether an option was given. -/
def has (p : Parsed) (name : String) : Bool := p.options.any (·.1 == name)

/-- The value of an option. -/
def value? (p : Parsed) (name : String) : Option String := p.options.lookup name

/-- All values of an option. -/
def values (p : Parsed) (name : String) : List String :=
  (p.options.filter (·.1 == name)).map (·.2)

end Parsed

/-- Reads a natural number of 64 bits; a plus sign may stand in front. -/
def number? (s : String) : Option Nat :=
  let digits := match s.toList with
    | '+' :: cs => cs
    | cs => cs
  if digits.isEmpty || !digits.all (fun c => '0' ≤ c && c ≤ '9') then none
  else
    let n := digits.foldl (fun n c => n * 10 + (c.toNat - '0'.toNat)) 0
    if n < Nat.pow 2 64 then some n else none

namespace OptionKind

/-- Whether an option has a value. -/
def takesValue : OptionKind → Bool
  | .text | .texts | .path | .number => true
  | .flag | .tally | .help | .version => false

/-- Whether an option may be given more than once. -/
def isRepeatable : OptionKind → Bool
  | .tally | .texts => true
  | _ => false

/-- Whether a value is of the kind. -/
def allows (value : String) : OptionKind → Bool
  | .path => !value.isEmpty
  | .number => (number? value).isSome
  | _ => true

end OptionKind

/-- Notes that an option was given. -/
def note (p : Parsed) (spec : OptionSpec) (value : String) : Except Stop Parsed :=
  match spec.kind with
  | .help => .error .help
  | .version => .error .version
  | kind =>
    if (p.has spec.name && !kind.isRepeatable) || !kind.allows value then .error .usage
    else .ok { p with options := p.options ++ [(spec.name, value)] }

/-- Whether an argument looks like an option, or ends the options. -/
def looksLikeOption (arg : String) : Bool :=
  arg.toList.head? == some '-' && arg != "-"

/-- Takes the value of an option from the arguments behind it. -/
def noteNext (p : Parsed) (spec : OptionSpec) : List String → Except Stop (Parsed × List String)
  | [] => .error .usage
  | value :: rest =>
    if looksLikeOption value then .error .usage
    else do return (← note p spec value, rest)

/-- Reads an option by its long name, without the hyphens. -/
def longOption (specs : List OptionSpec) (p : Parsed) (body : List Char) (rest : List String) :
    Except Stop (Parsed × List String) :=
  let name := String.ofList (body.takeWhile (· != '='))
  let attached := match body.dropWhile (· != '=') with
    | [] => none
    | _ :: value => some (String.ofList value)
  match specs.find? (·.name == name) with
  | none => .error .usage
  | some spec =>
    match attached with
    | some value =>
      if spec.kind.takesValue then do return (← note p spec value, rest) else .error .usage
    | none =>
      if spec.kind.takesValue then noteNext p spec rest
      else do return (← note p spec "", rest)

/-- Reads options by their letters. A letter whose option has a value
takes what is left of the argument for it, without a leading `=`. -/
def letterOptions (specs : List OptionSpec) (p : Parsed) (rest : List String) :
    List Char → Except Stop (Parsed × List String)
  | [] => .ok (p, rest)
  | c :: cs =>
    match specs.find? (·.letter == some c) with
    | none => .error .usage
    | some spec =>
      if spec.kind.takesValue then
        match cs with
        | [] => noteNext p spec rest
        | '=' :: value => do return (← note p spec (String.ofList value), rest)
        | value => do return (← note p spec (String.ofList value), rest)
      else
        match note p spec "" with
        | .ok p' => letterOptions specs p' rest cs
        | .error stop => .error stop

/-- Reads an argument that looks like an option. -/
def anyOption (specs : List OptionSpec) (p : Parsed) (arg : String) (rest : List String) :
    Except Stop (Parsed × List String) :=
  match arg.toList with
  | '-' :: '-' :: body => longOption specs p body rest
  | _ :: letters => letterOptions specs p rest letters
  | [] => .error .usage

/-- Takes another position, of which there is only one. -/
def takePosition (p : Parsed) (arg : String) : Except Stop Parsed :=
  if p.positions.isEmpty then .ok { p with positions := [arg] } else .error .usage

/-- Reads the arguments of a command with one position. `fuel` is at least
their number. -/
def readArguments (specs : List OptionSpec) : Nat → Parsed → List String → Except Stop Parsed
  | _, p, [] => .ok p
  | 0, p, _ => .ok p
  | fuel + 1, p, arg :: rest =>
    if arg == "--" then rest.foldlM takePosition p
    else if looksLikeOption arg then do
      let (p', rest') ← anyOption specs p arg rest
      readArguments specs fuel p' rest'
    else do readArguments specs fuel (← takePosition p arg) rest

/-- Reads the options in front of a command: the options, the name of the
command and the arguments behind it. -/
def readLeading (specs : List OptionSpec) : Nat → Parsed → List String →
    Except Stop (Parsed × String × List String)
  | _, _, [] => .error .usage
  | 0, _, _ => .error .usage
  | fuel + 1, p, arg :: rest =>
    if arg == "--" then .error .usage
    else if looksLikeOption arg then do
      let (p', rest') ← anyOption specs p arg rest
      readLeading specs fuel p' rest'
    else .ok (p, arg, rest)

end ScriptMatrix.CommandLine
