import ScriptMatrix.Sandbox.Shell.Builtin.Describe

/-!
# `ScriptMatrix.Sandbox.Shell.Builtin.Job`: commands for a person at work

A shell can put jobs in front of others, or forget them, if somebody sits
in front of it; in a script those commands only complain. Here is as well
the command that switches commands of the shell off.
-/

set_option autoImplicit false

namespace ScriptMatrix.Sandbox.Shell.Act

/-- The jobs that the shell has started itself. -/
def ownJobs : Act (List Job) := do
  let w ← get
  return w.system.jobs.filter fun j => j.process.parent == w.process.number && !j.isReader

/-- The job that an argument means: by its process, or by its place. -/
def jobOf? (cs : Chars) : Act (Option Job) := do
  let own ← ownJobs
  let found := match cs with
    | '%' :: rest =>
      match natural? rest with
      | some (n + 1) => own[n]?
      | some 0 => none
      | none => if rest.isEmpty || rest == ['%'] || rest == ['+'] then own.getLast? else none
    | _ => (natural? cs).bind fun n => own.find? (·.number == n)
  return found.filter (!·.known)

/-- A command that a script cannot carry out, which only complains. -/
def useless (message : String) (_ : List Chars) : Act Nat := do
  complain message.toList
  return 1

/-- Puts a job in front of others, which needs somebody who controls them. -/
def inFront (command : Chars) (args : List Chars) : Act Nat := do
  match ← withoutOptions command args with
  | .error status => return status
  | .ok args =>
    if ← isExtended then complainOf command "no job control".toList
    else match args with
      | [] => complainOf command "No current job".toList
      | a :: _ => complainOf command ("No such job: ".toList ++ a)
    failing 1 2

/-- Shows jobs, of which only the numbers are shown here. -/
def jobs (args : List Chars) : Act Nat := do
  let command := "jobs".toList
  let extended ← isExtended
  match Options.read (if extended then "lpnxrs" else "lp") "" args with
  | .error e => complainOptions command e
  | .ok o =>
    let mut status := 0
    let mut chosen := []
    if o.arguments.isEmpty then chosen := (← ownJobs).filter (!·.known)
    for a in o.arguments do
      match ← jobOf? a with
      | some j => chosen := chosen ++ [j]
      | none =>
        if extended then complainOf command (a ++ ": no such job".toList)
        else complainOf command ("No such job: ".toList ++ a)
        status ← failing 1 2
    if o.has 'p' then
      for j in chosen do write 1 (digits j.number ++ ['\n'])
    return status

/-- Forgets jobs. -/
def disown (args : List Chars) : Act Nat := do
  let command := "disown".toList
  match Options.read "ahr" "" args with
  | .error e => complainOptions command e
  | .ok o =>
    let names := if o.arguments.isEmpty then [['%']] else o.arguments
    let mut status := 0
    for a in names do
      if !o.has 'a' && !o.has 'r' && (← jobOf? a).isNone then
        let shown := if o.arguments.isEmpty then "current".toList else a
        complainOf command (shown ++ ": no such job".toList)
        status := 1
    return status

/-- Switches commands of the shell on or off, or shows those that are
on. -/
def enable (args : List Chars) : Act Nat := do
  let command := "enable".toList
  match Options.read "adnps" "f" args with
  | .error e => complainOptions command e
  | .ok o =>
    let off := (← process).disabled
    if o.arguments.isEmpty then
      for name in builtinNames .extended do
        let isOff := off.contains name
        if o.has 'a' || isOff == o.has 'n' then
          write 1 ((if isOff then "enable -n " else "enable ").toList ++ name.toList ++ ['\n'])
      return 0
    let mut status := 0
    for a in o.arguments do
      let name := String.ofList a
      if (builtinNames .extended).contains name then
        alter fun p =>
          let others := p.disabled.filter (· != name)
          { p with disabled := if o.has 'n' then name :: others else others }
      else
        complainOf command (a ++ ": not a shell builtin".toList)
        status := 1
    return status

end ScriptMatrix.Sandbox.Shell.Act
