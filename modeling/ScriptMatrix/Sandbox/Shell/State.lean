import ScriptMatrix.Sandbox.Shell.Variable
import ScriptMatrix.Sandbox.Tree

/-!
# `ScriptMatrix.Sandbox.Shell.State`: what running shells know

A `Process` is a shell that carries out commands: its variables,
functions, arguments, and where its streams lead. What all processes share
is the `System`: files, what is open, what has been shown, and the time.
A shell that starts another gives it a copy of what it knows and takes
back nothing but the status at the end.
-/

set_option autoImplicit false

namespace ScriptMatrix.Sandbox.Shell

/-- Where a stream leads. -/
inductive Channel where
  | file (place : Location)
  /-- Text that is kept until it is read. -/
  | queue (n : Nat)
  /-- What is shown. -/
  | shown
  /-- Nothing to read, and what is written is gone. -/
  | void
  /-- No room for what is written. -/
  | full
  /-- Zeros without end. -/
  | zeros
  deriving Repr, DecidableEq

/-- Something that has been opened. -/
structure Opened where
  channel : Channel
  /-- How many bytes of a file have been passed. -/
  offset : Nat := 0
  reads : Bool := false
  writes : Bool := false
  /-- Whether everything is written at the end. -/
  appends : Bool := false
  deriving Repr

/-- Text that is kept: what is read next, and what has been added, the last
first. -/
structure Queue where
  front : Chars := []
  back : List Chars := []
  /-- How long all of it is. -/
  size : Nat := 0
  deriving Repr

/-- Variables that come and go together. -/
structure Scope where
  frame : Frame
  /-- Whether they are there for a single command. -/
  temporary : Bool

/-- A function that is being carried out. -/
structure Call where
  name : Chars
  /-- The line of the call. -/
  line : Nat

/-- What a shell knows. -/
structure Process where
  dialect : Dialect
  name : Chars
  arguments : List Chars := []
  /-- Variables, the innermost first. -/
  scopes : List Scope := [⟨[], false⟩]
  /-- The bodies of the functions by their names. -/
  functions : List (Chars × Command) := []
  aliases : List (Chars × Chars) := []
  /-- The names of the options that are on. -/
  options : List String := []
  /-- The names of the other options that are on. -/
  extras : List String := []
  /-- The status of the last command. -/
  status : Nat := 0
  /-- What each part of the last pipe ended with. -/
  parts : List Nat := [0]
  /-- The status of the last script whose output was taken, if the current
  command took any. -/
  taken : Option Nat := none
  line : Nat := 1
  /-- What is to be done at signals, by their names. -/
  traps : List (Chars × Chars) := []
  /-- Whether the traps belong to the shell that started this one. -/
  trapsInherited : Bool := false
  number : Nat
  parent : Nat
  /-- The number of the shell that all others come from. -/
  root : Nat
  /-- How many shells that one has started before this, one from another. -/
  level : Nat := 0
  /-- What is open, by the numbers of streams. -/
  streams : List (Nat × Nat) := []
  directory : Location
  calls : List Call := []
  /-- How many loops are running. -/
  loops : Nat := 0
  /-- How many files of commands are being read. -/
  sources : Nat := 0
  /-- Whether the outcome of what runs is asked for. -/
  guarded : Bool := false
  /-- What complaints name besides the script: the file of commands that is
  being read, or in the plain dialect also the command that runs others. -/
  inside : Chars := []
  /-- The status before the trap that is being carried out. -/
  trapStatus : Option Nat := none
  /-- The number of the last command in the background. -/
  lastJob : Option Nat := none
  /-- How far `getopts` is in the current argument. -/
  optionPlace : Nat := 0
  /-- Paths to go back to. -/
  stack : List Chars := []
  mask : Nat := 18
  /-- The limits that have been set, by their letters. -/
  limits : List (Char × Chars) := []
  /-- The names of the commands of the shell that are switched off. -/
  disabled : List String := []
  /-- Whether the shell knows no more than a command from a string. -/
  command : Bool := false

/-- A command in the background. -/
structure Job where
  number : Nat
  process : Process
  body : Command
  /-- When it was started, in thousandths of a second. -/
  start : Nat
  /-- Whether it is being carried out. -/
  runs : Bool := false
  /-- Its status, and when it ended. -/
  ended : Option (Nat × Nat) := none
  /-- Whether its end has been asked for. -/
  known : Bool := false
  /-- Whether it reads what the current command writes. -/
  isReader : Bool := false

/-- What all processes share. -/
structure System where
  tree : Tree
  opened : Array Opened := #[]
  queues : Array Queue := #[]
  /-- What has been shown and when, the last first. -/
  shown : List (Nat × Chars) := []
  /-- The time in thousandths of a second. -/
  now : Nat := 0
  nextNumber : Nat
  jobs : List Job := []
  /-- The signals that have been sent to processes. -/
  signals : List (Nat × Nat) := []
  /-- The files that have been made programs. -/
  executables : List Location := []
  /-- Where the random numbers are. -/
  seed : Nat := 1
  /-- How many files with names of their own there are. -/
  scratches : Nat := 0

/-- Why a shell stops what it is doing. -/
inductive Halt where
  | exited (status : Nat)
  | returned (status : Nat)
  /-- So many loops are left. -/
  | broken (loops : Nat)
  /-- So many loops but one are left, and that one goes on. -/
  | continued (loops : Nat)
  /-- In the extended dialect the rest of the line is not carried out, in
  the plain one the rest of the script. With `whole`, it is the line of the
  outermost script. -/
  | abandoned (whole : Bool)
  | killed (signal : Nat)
  /-- There is no end in sight. -/
  | exhausted
  deriving Repr, DecidableEq

/-- Whether the shell comes to its end. -/
def Halt.isFinal : Halt → Bool
  | .exited _ | .killed _ | .exhausted => true
  | _ => false

/-- A running shell and everything around it. -/
structure World where
  process : Process
  system : System

/-- A step of a shell. -/
abbrev Act := ExceptT Halt (StateM World)

namespace Act

/-- What the shell knows. -/
def process : Act Process := return (← get).process

/-- What all shells share. -/
def system : Act System := return (← get).system

/-- Changes what the shell knows. -/
def alter (f : Process → Process) : Act Unit :=
  modify fun w => { w with process := f w.process }

/-- Changes what all shells share. -/
def alterSystem (f : System → System) : Act Unit :=
  modify fun w => { w with system := f w.system }

/-- Whether the extended dialect is spoken. -/
def isExtended : Act Bool := return (← process).dialect == .extended

/-- Whether an option is on. -/
def isOn (option : String) : Act Bool := return (← process).options.contains option

/-- Whether one of the other options is on. -/
def hasExtra (option : String) : Act Bool := return (← process).extras.contains option

/-- Switches an option on or off. -/
def switch (option : String) (on : Bool) : Act Unit := alter fun p =>
  let others := p.options.filter (· != option)
  { p with options := if on then others ++ [option] else others }

/-- The files, seen from the current directory. -/
def tree : Act Tree := do
  let w ← get
  return { w.system.tree with current := w.process.directory }

/-- Changes the files. -/
def setTree (t : Tree) : Act Unit := alterSystem fun s => { s with tree := t }

/-- Sets the status. -/
def status (n : Nat) : Act Unit := alter fun p => { p with status := n }

/-- Repeats a step on a value while it gives another one, at most so often.
It goes on from one state to the next, so that any number of rounds needs
no more room. -/
def iterate {σ : Type} : Nat → (σ → Act (Option σ)) → σ → World → Except Halt Unit × World
  | 0, _, _, w => (.error .exhausted, w)
  | n + 1, step, a, w =>
    match (step a).run w with
    | (.ok (some b), w') => iterate n step b w'
    | (.ok none, w') => (.ok (), w')
    | (.error h, w') => (.error h, w')

/-- How many rounds a loop may have. -/
def roundLimit : Nat := 10000000

/-- Repeats a step on a value while it gives another one. -/
def repeating {σ : Type} (step : σ → Act (Option σ)) (a : σ) : Act Unit :=
  ExceptT.mk (iterate roundLimit step a)

/-- What a step ends with, whether or not it comes to an end of its own. -/
def attempt {α : Type} (step : Act α) : Act (Except Halt α) :=
  ExceptT.mk fun w =>
    match step.run w with
    | (r, w') => (.ok r, w')

/-- Goes on with what a step ended with. -/
def ofResult {α : Type} : Except Halt α → Act α
  | .ok a => return a
  | .error h => throw h

/-- Carries out a step, and then another one whatever the first one ends
with, unless that is the end of the shell: what is done at the end still
finds everything as it was. -/
def thenAlways {α : Type} (step : Act α) (after : Act Unit) : Act α := do
  match ← attempt step with
  | .ok a =>
    after
    return a
  | .error h =>
    if !h.isFinal then after
    throw h

/-! ### Variables -/

/-- The name of the variable that a name leads to. -/
def resolveIn (p : Process) : Nat → Chars → Chars
  | 0, name => name
  | fuel + 1, name =>
    match p.scopes.findSome? fun s => s.frame.lookup name with
    | some v =>
      if v.reference then
        match v.value? with
        | some target => if isName target then resolveIn p fuel target else name
        | none => name
      else name
    | none => name

/-- The variable with a name, not looked for any further. -/
def plainLookup? (name : Chars) : Act (Option Variable) :=
  return (← process).scopes.findSome? fun s => s.frame.lookup name

/-- The name of the variable that a name leads to. -/
def resolve (name : Chars) : Act Chars := return resolveIn (← process) 8 name

/-- The variable that a name leads to. -/
def lookup? (name : Chars) : Act (Option Variable) := do plainLookup? (← resolve name)

/-- The text of a variable. -/
def text? (name : Chars) : Act (Option Chars) := return (← lookup? name).bind Variable.value?

/-- Changes the innermost scope that knows a name, or else the outermost. -/
def putIn (name : Chars) (v : Variable) : List Scope → List Scope
  | [] => [⟨[(name, v)], false⟩]
  | [s] => [{ s with frame := s.frame.put name v }]
  | s :: rest =>
    if s.frame.any (·.1 == name) then { s with frame := s.frame.put name v } :: rest
    else s :: putIn name v rest

/-- Stores a variable where its name is known. -/
def store (name : Chars) (v : Variable) : Act Unit :=
  alter fun p => { p with scopes := putIn name v p.scopes }

/-- Gives a variable a text, whatever its attributes. -/
def storeText (name : Chars) (cs : Chars) : Act Unit := do
  let v := (← plainLookup? name).getD {}
  store name (v.withText cs)

/-- Stores a variable in the scope of the function that runs. -/
def storeLocal (name : Chars) (v : Variable) : Act Unit :=
  alter fun p =>
    let rec go : List Scope → List Scope
      | [] => []
      | [s] => [{ s with frame := s.frame.put name v }]
      | s :: rest =>
        if s.temporary then s :: go rest else { s with frame := s.frame.put name v } :: rest
    { p with scopes := go p.scopes }

/-- The variable with a name in the scope of the function that runs. -/
def local? (name : Chars) : Act (Option Variable) := do
  return ((← process).scopes.find? (!·.temporary)).bind (·.frame.lookup name)

/-- Stores a variable in the outermost scope. -/
def storeOutermost (name : Chars) (v : Variable) : Act Unit :=
  alter fun p =>
    let rec go : List Scope → List Scope
      | [] => []
      | [s] => [{ s with frame := s.frame.put name v }]
      | s :: rest => s :: go rest
    { p with scopes := go p.scopes }

/-- Removes a variable. In the function that it belongs to, its name stays
known, without a value. -/
def forget (name : Chars) : Act Unit :=
  alter fun p =>
    let rec go (isOwn : Bool) : List Scope → List Scope
      | [] => []
      | [s] => [{ s with frame := s.frame.erase name }]
      | s :: rest =>
        if s.frame.any (·.1 == name) then
          if isOwn && !s.temporary then { s with frame := s.frame.put name {} } :: rest
          else { s with frame := s.frame.erase name } :: rest
        else s :: go (isOwn && s.temporary) rest
    { p with scopes := go true p.scopes }

/-- All variables that can be seen, by name. -/
def visible : Act Frame := do
  let all := (← process).scopes.flatMap (·.frame)
  return all.foldl (fun seen e => if seen.any (·.1 == e.1) then seen else seen ++ [e]) []

/-- The variables that programs get to know. -/
def environment : Act (List (Chars × Chars)) := do
  return (← visible).filterMap fun (name, v) =>
    if v.exported then v.value?.map fun cs => (name, cs) else none

end Act

end ScriptMatrix.Sandbox.Shell
