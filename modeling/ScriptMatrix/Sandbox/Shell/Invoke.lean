import ScriptMatrix.Sandbox.Shell.Builtin.Describe
import ScriptMatrix.Sandbox.Shell.Builtin.Directory
import ScriptMatrix.Sandbox.Shell.Builtin.Job
import ScriptMatrix.Sandbox.Shell.Builtin.Jump
import ScriptMatrix.Sandbox.Shell.Builtin.Limit
import ScriptMatrix.Sandbox.Shell.Builtin.Mask
import ScriptMatrix.Sandbox.Shell.Builtin.Running
import ScriptMatrix.Sandbox.Shell.Test

/-!
# `ScriptMatrix.Sandbox.Shell.Invoke`: functions, commands and programs

The first word of a command is the name of a function, of a command of the
shell itself, or of a program, in this order; in the plain dialect the
special commands of the shell come before functions.
-/

set_option autoImplicit false

namespace ScriptMatrix.Sandbox.Shell

/-- An operand as it is written. -/
def Operand.toText : Operand → Chars
  | .text cs => cs
  | .assigned name index append cs =>
    name ++ (match index with
      | some i => ['['] ++ i ++ [']']
      | none => []) ++ (if append then ['+', '='] else ['=']) ++ cs
  | .elements name append es =>
    name ++ (if append then ['+', '='] else ['=']) ++ ['('] ++
      joinWith [' '] (es.map (·.2)) ++ [')']

namespace Act

/-! ### Functions -/

/-- The events whose traps a function does not see. -/
def hiddenEvents : Act (List Chars) := do
  let functions := if ← isOn "functrace" then [] else ["DEBUG", "RETURN"]
  let errors := if ← isOn "errtrace" then [] else ["ERR"]
  return (functions ++ errors).map String.toList

/-- Calls a function with arguments and with variables of its own: its
status. -/
def call (k : Again) (name : Chars) (body : Command) (own : Frame) (args : List Chars) :
    Act Nat := do
  let before ← process
  let hidden ← hiddenEvents
  alter fun p => { p with
    scopes := ⟨own, false⟩ :: p.scopes, arguments := args
    calls := ⟨name, p.line⟩ :: p.calls, loops := 0
    traps := p.traps.filter fun e => !hidden.contains e.1 }
  let restore := alter fun p =>
    let kept := before.traps.filter fun e => hidden.contains e.1 && !p.traps.any (·.1 == e.1)
    { p with
      scopes := p.scopes.drop (p.scopes.length - before.scopes.length)
      arguments := before.arguments, calls := before.calls, loops := before.loops
      line := before.line, traps := p.traps ++ kept }
  thenAlways (do
    match ← attempt (k.commands [body]) with
    | .error (.returned n) => status n
    | r => ofResult r
    match (← process).traps.lookup "RETURN".toList with
    | some action => runTrap k action
    | none => pure ()) restore
  return (← process).status

/-! ### Commands of the shell itself -/

/-- A question between brackets. -/
def bracket (args : List Chars) : Act Nat := do
  if args.getLast? == some [']'] then test ['['] args.dropLast
  else
    if ← isExtended then
      complainOf ['['] ("missing ".toList ++ [Char.ofNat 96] ++ "]'".toList)
    else complainOf ['['] "missing ]".toList
    return 2

/-- The times that all commands have taken. -/
def times (_ : List Chars) : Act Nat := do
  write 1 "0m0.000s 0m0.000s\n0m0.000s 0m0.000s\n".toList
  return 0

/-- The commands of both dialects that take arguments. -/
def commonBuiltin? (k : Again) : String → Option (List Chars → Act Nat)
  | ":" | "true" => some fun _ => return 0
  | "false" => some fun _ => return 1
  | "." => some (source k)
  | "[" => some bracket
  | "alias" => some alias_
  | "bg" => some (inFront "bg".toList)
  | "fg" => some (inFront "fg".toList)
  | "jobs" => some jobs
  | "break" => some break_
  | "cd" => some cd
  | "continue" => some continue_
  | "echo" => some echo
  | "eval" => some (eval k)
  | "exec" => some (exec k)
  | "exit" => some exit
  | "getopts" => some getopts
  | "hash" => some hash
  | "kill" => some kill
  | "printf" => some printf
  | "pwd" => some pwd
  | "read" => some read
  | "return" => some return_
  | "set" => some set_
  | "shift" => some shift
  | "test" => some (test "test".toList)
  | "times" => some times
  | "trap" => some trap
  | "type" => some type
  | "ulimit" => some ulimit
  | "umask" => some umask
  | "unalias" => some unalias
  | "unset" => some unset
  | "wait" => some (wait k)
  | _ => none

/-- The commands of the extended dialect alone that take arguments. -/
def extendedBuiltin? (k : Again) : String → Option (List Chars → Act Nat)
  | "caller" => some caller
  | "dirs" => some dirs
  | "let" => some let_
  | "mapfile" | "readarray" => some mapfile
  | "popd" => some popd
  | "pushd" => some pushd
  | "shopt" => some shopt
  | "source" => some (source k)
  | "disown" => some disown
  | "enable" => some enable
  | "compopt" => some (useless "compopt: not currently executing completion function")
  | "logout" => some (useless "logout: not login shell: use \x60exit\x27")
  | "suspend" => some (useless "suspend: cannot suspend: no job control")
  | "bind" | "compgen" | "complete" | "fc" | "help" | "history" => some fun _ => return 0
  | _ => none

/-- The command of the shell itself with a name. -/
def builtin? (k : Again) (d : Dialect) (name : String) : Option (List Operand → Act Nat) :=
  let texts := fun (run : List Chars → Act Nat) (os : List Operand) => run (os.map Operand.toText)
  match name, d with
  | "export", _ => some export_
  | "readonly", _ => some readonly_
  | "local", _ => some local_
  | "declare", .extended => some (declare "declare".toList)
  | "typeset", .extended => some (declare "typeset".toList)
  | "chdir", .plain => some (texts cd)
  | _, .extended => ((extendedBuiltin? k name).orElse fun _ => commonBuiltin? k name).map texts
  | _, .plain => (commonBuiltin? k name).map texts

/-! ### Programs -/

/-- Complains about a program that cannot be started: the status. -/
def complainProgram (name : Chars) (reason : String) : Act Nat := do
  let missing := reason == "No such file or directory"
  match ← isExtended with
  | true =>
    if missing && !name.contains '/' then complain (name ++ ": command not found".toList)
    else if reason == "required file not found" then
      complain (name ++ ": cannot execute: required file not found".toList)
    else complain (name ++ ": ".toList ++ reason.toList)
    return if missing || reason == "required file not found" then 127 else 126
  | false =>
    let absent := missing || reason == "required file not found" || reason == "Not a directory"
    let shown := if name.isEmpty || reason == "Is a directory" then "Permission denied"
      else if absent then "not found" else reason
    complainFor [] (name ++ ": ".toList ++ shown.toList)
    return if absent then 127 else 126

/-- Starts a program by name or path: its status. -/
def runProgram (k : Again) (name : Chars) (args : List Chars) : Act Nat := do
  match ← findProgram name with
  | .error reason =>
    match (← process).functions.lookup "command_not_found_handle".toList with
    | some f =>
      if (← isExtended) && reason == "No such file or directory" && !name.contains '/' then
        inSubshell k do status (← call k "command_not_found_handle".toList f [] (name :: args))
      else complainProgram name reason
    | none => complainProgram name reason
  | .ok (path, place) =>
    match ← launch k 5 name path place args with
    | .ok ending => return ending.status
    | .error reason => complainProgram (if name.contains '/' then name else path) reason

/-! ### Commands by name -/

/-- What goes wrong in a command of the plain dialect that is not special
is only its own affair. -/
def contained (isSpecial : Bool) (run : Act Nat) : Act Nat := do
  if isSpecial || (← isExtended) then run
  else
    match ← attempt run with
    | .error (.abandoned _) => return (← process).status
    | r => ofResult r

/-- Carries out a command by its name: its status. With `functions`, it may
be a function, and special commands are special. -/
def invoke (k : Again) : Nat → Bool → List Operand → Act Nat
  | 0, _, _ => return 0
  | _, _, [] => return 0
  | fuel + 1, functions, first :: rest => do
    let p ← process
    let name := first.toText
    let word := String.ofList name
    let isSpecial := functions && p.dialect == .plain && specialNames.contains word
    match if functions && !isSpecial then p.functions.lookup name else none with
    | some f => call k name f [] (rest.map Operand.toText)
    | none =>
      match word, p.dialect with
      | "command", d =>
        let options := rest.takeWhile fun o => match o with
          | .text ('-' :: _ :: _) => true
          | _ => false
        match Options.read "pvV" "" (options.map Operand.toText) with
        | .error e => complainOptions name e
        | .ok o =>
          let others := rest.drop options.length
          if o.has 'v' || o.has 'V' then describe (o.has 'v') (others.map Operand.toText)
          else if d == .plain && others.isEmpty then return 0
          else invoke k fuel false others
      | "builtin", .extended =>
        match rest with
        | [] => return 0
        | next :: _ =>
          let inner := next.toText
          let word := String.ofList inner
          if (builtinNames .extended).contains word && !p.disabled.contains word then
            invoke k fuel false rest
          else
            complainOf name (inner ++ ": not a shell builtin".toList)
            return 1
      | _, d =>
        match if p.disabled.contains word then none else builtin? k d word with
        | some run => contained isSpecial (run rest)
        | none => runProgram k name (rest.map Operand.toText)

end Act

end ScriptMatrix.Sandbox.Shell
