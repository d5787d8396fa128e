import ScriptMatrix.Sandbox.Shell.Builtin.Basic

/-!
# `ScriptMatrix.Sandbox.Shell.Builtin.Signal`: signals and traps

A signal ends the process it is sent to, unless a trap says what is to be
done instead, or to do nothing. Some events are no signals but have traps:
the end of the script, a command that fails, any command, and the return
from a function.
-/

set_option autoImplicit false

namespace ScriptMatrix.Sandbox.Shell

/-- The signals that end no process. -/
def harmlessSignals : List Nat := [17, 18, 23, 28]

/-- The signals that cannot be trapped. -/
def certainSignals : List Nat := [9, 19]

/-- The first and last of the signals that have numbers rather than
names. -/
def realTimeSignals : Nat × Nat := (34, 64)

/-- The events of the extended dialect that are no signals. -/
def eventNames : List String := ["DEBUG", "ERR", "RETURN"]

/-- The name of a signal. -/
def signalName (n : Nat) : Chars :=
  let (low, high) := realTimeSignals
  match signalNames.find? (·.2 == n) with
  | some (name, _) => name.toList
  | none =>
    if n == low then "RTMIN".toList
    else if n == high then "RTMAX".toList
    else if low < n && n < 50 then "RTMIN+".toList ++ digits (n - low)
    else if 50 ≤ n && n < high then "RTMAX-".toList ++ digits (high - n)
    else digits n

/-- The number of a signal by its name, in which the first letters that all
share may be missing. -/
def signalNumber? (fold shares : Bool) (cs : Chars) : Option Nat :=
  let (low, high) := realTimeSignals
  let cs := if fold then cs.map toUpper else cs
  let cs := if shares && "SIG".toList.isPrefixOf cs then cs.drop 3 else cs
  match signalNames.lookup (String.ofList cs) with
  | some n => some n
  | none =>
    if cs == "RTMIN".toList then some low
    else if cs == "RTMAX".toList then some high
    else if "RTMIN+".toList.isPrefixOf cs then
      ((natural? (cs.drop 6)).map (low + ·)).filter (· ≤ high)
    else if "RTMAX-".toList.isPrefixOf cs then
      ((natural? (cs.drop 6)).map (high - ·)).filter (low ≤ ·)
    else none

namespace Act

/-- The name under which a trap is kept: of a signal by name or number, or
of an event. -/
def trapName? (cs : Chars) : Act (Option Chars) := do
  let extended ← isExtended
  match natural? cs with
  | some 0 => return some "EXIT".toList
  | some n => return if n ≤ 64 && n != 32 && n != 33 then some (signalName n) else none
  | none =>
    let folded := if extended then cs.map toUpper else cs
    let bare := if extended && "SIG".toList.isPrefixOf folded then folded.drop 3 else folded
    if bare == "EXIT".toList then return some bare
    if extended && eventNames.contains (String.ofList bare) then return some bare
    return (signalNumber? extended extended cs).map signalName

/-- The names of all traps, in the order in which they are shown. -/
def trapOrder : List Chars :=
  "EXIT".toList :: (((List.range 65).drop 1).map signalName ++ eventNames.map String.toList)

/-- Shows traps, all or those that are asked for. -/
def showTraps (names : List Chars) : Act Nat := do
  let p ← process
  let extended := p.dialect == .extended
  let mut status := 0
  let asked ← if names.isEmpty then pure trapOrder
    else names.filterMapM fun n => trapName? n
  if asked.length < names.length then status := 1
  for name in asked do
    match p.traps.lookup name with
    | some action =>
      let isSignal := extended && name != "EXIT".toList &&
        !eventNames.contains (String.ofList name)
      write 1 ("trap -- ".toList ++ quoteSingle action ++ [' '] ++
        (if isSignal then "SIG".toList else []) ++ name ++ ['\n'])
    | none => pure ()
  return status

/-- Says what is to be done at signals and events. -/
def trap (args : List Chars) : Act Nat := do
  let command := "trap".toList
  let extended ← isExtended
  match Options.read (if extended then "lp" else "") "" args with
  | .error e => refuse (← complainOptions command e)
  | .ok o =>
    let args := o.arguments
    if o.has 'l' then
      for (name, n) in signalNames do
        write 1 (digits n ++ ") SIG".toList ++ name.toList ++ ['\n'])
      return 0
    if o.has 'p' || args.isEmpty then return ← showTraps args
    let alone := args.length == 1
    let first := args.headD []
    let resets := alone || first == ['-'] || (natural? first).isSome
    let names := if first == ['-'] || !resets then args.drop 1 else args
    if alone && extended && (← trapName? first).isNone then
      complainOf command "usage: trap [-lp] [[arg] signal_spec ...]".toList
      return 2
    -- What the shell that started this one had set is no longer of interest.
    alter fun p => if p.trapsInherited then { p with traps := [], trapsInherited := false } else p
    let mut status := 0
    for n in names do
      match ← trapName? n with
      | none =>
        if extended then complainOf command (n ++ ": invalid signal specification".toList)
        else complainOf command (n ++ ": bad trap".toList)
        status := 1
      | some name =>
        alter fun p =>
          let others := p.traps.filter (·.1 != name)
          { p with traps := if resets then others else (name, first) :: others }
    return status

/-- Whether a process is running. -/
def isRunning (n : Nat) : Act Bool := do
  let w ← get
  let job := w.system.jobs.find? (·.number == n)
  return n == w.process.number || n == w.process.root || n == w.process.parent || n == 1 ||
    (job.map fun j => !j.known).getD false

/-- Sends a signal to a process; false if there is none. -/
def send (signal n : Nat) : Act Bool := do
  if !(← isRunning n) then return false
  if signal == 0 then return true
  alterSystem fun s => { s with signals := s.signals ++ [(n, signal)] }
  return true

/-- The process that an argument of `kill` means. -/
def target? (cs : Chars) : Act (Option Nat) := do
  match cs with
  | '%' :: rest =>
    let jobs := (← system).jobs
    match natural? rest with
    | some (n + 1) => return (jobs[n]?).map (·.number)
    | _ => return (jobs.getLast?).map (·.number)
  | '-' :: rest => return natural? rest
  | _ => return natural? cs

/-- Shows signals by name or number. -/
def listSignals (args : List Chars) : Act Nat := do
  let extended ← isExtended
  let mut status := 0
  for a in if extended then args else args.take 1 do
    match natural? a with
    | some n =>
      let n := if 128 < n then n - 128 else n
      if n == 0 then write 1 ((if extended then "EXIT" else "0").toList ++ ['\n'])
      else if n ≤ 64 then write 1 (signalName n ++ ['\n'])
      else
        complainOf "kill".toList (a ++ ": invalid signal specification".toList)
        status := 1
    | none =>
      if !extended then
        complainOf "kill".toList ("Illegal number: ".toList ++ a)
        giveUp
      match signalNumber? extended true a with
      | some n => write 1 (digits n ++ ['\n'])
      | none =>
        complainOf "kill".toList (a ++ ": invalid signal specification".toList)
        status := 1
  if args.isEmpty then
    for (name, n) in signalNames do
      if extended then write 1 (digits n ++ ") SIG".toList ++ name.toList ++ ['\n'])
      else write 1 (name.toList ++ ['\n'])
  return status

/-- Sends signals to processes. -/
def kill (args : List Chars) : Act Nat := do
  let command := "kill".toList
  let extended ← isExtended
  let number := fun (cs : Chars) => match natural? cs with
    | some n => if n ≤ 64 then some n else none
    | none =>
      let folded := if extended then cs.map toUpper else cs
      let bare := if "SIG".toList.isPrefixOf folded then folded.drop 3 else folded
      if bare == "EXIT".toList then some 0 else signalNumber? extended extended cs
  let (signal, targets) : Option Nat × List Chars := match args with
    | ['-', '-'] :: rest => (some 15, rest)
    | ['-', 's'] :: s :: rest | ['-', 'n'] :: s :: rest => (number s, rest)
    | ('-' :: 's' :: c :: cs) :: rest =>
      match number ('s' :: c :: cs) with
      | some n => (some n, rest)
      | none => (number (c :: cs), rest)
    | ('-' :: c :: cs) :: rest => (number (c :: cs), rest)
    | _ => (some 15, args)
  match args with
  | ['-', 'l'] :: rest | ['-', 'L'] :: rest => return ← listSignals rest
  | _ => pure ()
  let targets := if targets.head? == some ['-', '-'] then targets.drop 1 else targets
  match signal with
  | none =>
    let word := match args with
      | [_, s] :: x :: _ => if s == 's' || s == 'n' then x else [s]
      | a :: _ => a.drop 1
      | [] => []
    if extended then complainOf command (word ++ ": invalid signal specification".toList)
    else complainOf command ("invalid signal number or name: ".toList ++ word)
    failing 1 2
  | some signal =>
    if targets.isEmpty then
      complainOf command ("usage: kill [-s sigspec | -n signum | -sigspec] pid | jobspec ... " ++
        "or kill -l [sigspec]").toList
      return 2
    let mut sent := false
    let mut status := 0
    for t in targets do
      match ← target? t with
      | none =>
        if extended then complainOf command (t ++ ": arguments must be process or job IDs".toList)
        else complainOf command ("Illegal number: ".toList ++ t)
        status := if extended then 1 else 2
      | some n =>
        if ← send signal n then sent := true
        else
          complainOf command (['('] ++ t ++ ") - No such process".toList)
          status := 1
    return if extended && sent then 0 else status

end Act

end ScriptMatrix.Sandbox.Shell
