import ScriptMatrix.Sandbox.Shell.Builtin.Signal
import ScriptMatrix.Sandbox.Shell.Redirection
import ScriptMatrix.Sandbox.Shell.Read.Command

/-!
# `ScriptMatrix.Sandbox.Shell.Subshell`: shells that others start

Commands between parentheses, in pipes and in the background are carried
out by a shell of their own, which begins with all that the first one
knows. What it changes in itself is gone when it ends; what it writes
stays. Commands in the background are carried out when somebody waits for
them, or when the time comes to which they take.

How commands are carried out is a parameter here.
-/

set_option autoImplicit false

namespace ScriptMatrix.Sandbox.Shell

/-- How commands inside of others are carried out. -/
structure Again where
  commands : List Command → Act Unit
  /-- Reads a script and carries it out line by line. -/
  script : Chars → Act Unit
  /-- How commands in words are carried out. -/
  runner : Runner
  /-- Starts a program by name or path: its status, or why it cannot be
  started. -/
  start : List Chars → Act (Except String Nat)

/-- The signals at which the extended dialect still carries out the trap
for the end. -/
def orderlySignals : List Nat := [1, 2, 4, 5, 6, 7, 8, 10, 11, 12, 13, 14, 15, 24, 25, 26, 31]

namespace Act

/-! ### Traps -/

/-- Carries out what a trap says. The status is the one from before, unless
the script ends. -/
def runTrap (k : Again) (action : Chars) : Act Unit := do
  let before ← process
  alter fun p => { p with trapStatus := some before.status }
  let r ← attempt (k.script action)
  alter fun p => { p with trapStatus := before.trapStatus }
  match r with
  | .ok _ => alter fun p => { p with status := before.status, parts := before.parts }
  | .error h => throw h

/-- The action for an event, if it is to be carried out here. -/
def eventAction? (event inherits : String) : Act (Option Chars) := do
  let p ← process
  let action := (p.traps.lookup event.toList).filter (!List.isEmpty ·)
  if p.trapsInherited && !p.options.contains inherits then return none
  return action

/-- Carries out the trap of an event. -/
def runEvent (k : Again) (event inherits : String) : Act Unit := do
  match ← eventAction? event inherits with
  | some action => if (← process).trapStatus.isNone then runTrap k action
  | none => return ()

/-- What a failure does that nobody asks for: the trap for it, and the end
of the script if that is wanted. -/
def settle (k : Again) : Act Unit := do
  let p ← process
  if p.status != 0 && !p.guarded then
    if p.dialect == .extended then runEvent k "ERR" "errtrace"
    if p.options.contains "errexit" then throw (.exited p.status)

/-- A step whose outcome is asked for. -/
def guarding (step : Act Unit) : Act Unit := do
  let before := (← process).guarded
  alter fun p => { p with guarded := true }
  let r ← attempt step
  alter fun p => { p with guarded := before }
  ofResult r

/-- Receives the signals that have been sent to this process. -/
def receive (k : Again) : Act Unit := do
  let w ← get
  let mine := w.system.signals.filter (·.1 == w.process.number)
  if !mine.isEmpty then
    alterSystem fun s => { s with signals := s.signals.filter (·.1 != w.process.number) }
    for (_, signal) in mine do
      let p ← process
      let action :=
        if certainSignals.contains signal then none else p.traps.lookup (signalName signal)
      match action with
      | some [] => pure ()
      | some action =>
        if p.trapsInherited then
          if !harmlessSignals.contains signal then throw (.killed signal)
        else runTrap k action
      | none =>
        let ignored := harmlessSignals.contains signal ||
          [19, 20, 21, 22].contains signal || (p.dialect == .extended && signal == 3)
        if !ignored then throw (.killed signal)

/-- Carries out the trap for the end: the status that the end then has. -/
def runExitTrap (k : Again) (status : Nat) : Act (Except Halt Nat) := do
  let p ← process
  match p.traps.lookup "EXIT".toList with
  | some action =>
    if p.trapsInherited || action.isEmpty then return .ok status
    alter fun p => { p with
      line := 1, status := status, traps := p.traps.filter (·.1 != "EXIT".toList),
      guarded := false }
    match ← attempt (runTrap k action) with
    | .ok _ => return .ok status
    | .error (.exited n) => return .ok n
    | .error (.killed n) => return .error (.killed n)
    | .error .exhausted => return .error .exhausted
    | .error _ => return .ok status
  | none => return .ok status

/-- How a shell ends after its commands: with a status, or by a signal. -/
def ending (k : Again) (r : Except Halt Unit) : Act (Except Halt Nat) := do
  match r with
  | .ok _ => runExitTrap k (← process).status
  | .error (.exited n) => runExitTrap k n
  | .error (.returned n) => runExitTrap k (n % 256)
  | .error (.abandoned _) | .error (.broken _) | .error (.continued _) =>
    runExitTrap k (← process).status
  | .error (.killed signal) =>
    if (← isExtended) && orderlySignals.contains signal then
      match ← runExitTrap k (128 + signal) with
      | .error .exhausted => return .error .exhausted
      | _ => return .error (.killed signal)
    else return .error (.killed signal)
  | .error h => return .error h

/-! ### Shells that others start -/

/-- A number for a new process. -/
def newNumber : Act Nat := do
  let n := (← system).nextNumber
  alterSystem fun s => { s with nextNumber := n + 1 }
  return n

/-- What a new shell knows of what the one that starts it knows. -/
def childOf (p : Process) (number : Nat) : Process :=
  { p with
    number := number
    parent := p.number
    level := p.level + 1
    loops := if p.dialect == .extended then 0 else p.loops
    trapsInherited := p.trapsInherited || !p.traps.isEmpty
    trapStatus := none
    lastJob := p.lastJob }

/-- Carries out a step in a shell of its own: its status. -/
def inSubshell (k : Again) (step : Act Unit) : Act Nat := do
  let before ← process
  let n ← newNumber
  alter fun p => childOf p n
  let r ← attempt (do
    step
    receive k)
  let result ← ending k r
  alterSystem fun s => { s with signals := s.signals.filter (·.1 != n) }
  modify fun w => { w with process := before }
  match result with
  | .ok status => return status
  | .error (.killed signal) => return 128 + signal
  | .error h => throw h

/-- The newlines at the end of what commands write do not count, nor do
zeros. -/
def trimOutput (cs : Chars) : Chars :=
  ((cs.filter (· != '\x00')).reverse.dropWhile (· == '\n')).reverse

/-- What a step writes in a shell of its own. -/
def captured (k : Again) (step : Act Unit) : Act Chars := do
  let extended ← isExtended
  let inherits ← hasExtra "inherit_errexit"
  let (status, text) ← capturing (inSubshell k do
    if extended && !inherits then switch "errexit" false
    step)
  alter fun p => { p with
    taken := some status, status := if extended then status else p.status }
  return trimOutput text

/-- The file that commands alone read from, if they are nothing else. -/
def soleInput? : List Command → Option Word
  | [.simple _ [] [] [.mk none none .read target]] => some target
  | [.simple _ [] [] [.mk (some 0) none .read target]] => some target
  | _ => none

/-- A shell to come that carries out commands in the background. -/
def addJob (body : Command) (isReader : Bool) (connectInput : Act Unit) : Act Nat := do
  let before ← process
  let n ← newNumber
  alter fun p => childOf p n
  connectInput
  let p ← process
  modify fun w => { w with
    process := before
    system := { w.system with
      jobs := w.system.jobs ++
        [{ number := n, process := p, body := body, start := w.system.now,
           isReader := isReader }] } }
  return n

/-- Changes what is known about a job. -/
def alterJob (n : Nat) (f : Job → Job) : Act Unit := alterSystem fun s =>
  { s with jobs := s.jobs.map fun j => if j.number == n then f j else j }

/-- Carries out a job to its end. -/
def runJob (k : Again) (j : Job) : Act Unit := do
  alterJob j.number fun j => { j with runs := true }
  let before ← get
  modify fun w => { w with process := j.process, system := { w.system with now := j.start } }
  let r ← attempt (do
    k.commands [j.body]
    receive k)
  let result ← ending k r
  let after := (← system).now
  modify fun w => { w with
    process := before.process, system := { w.system with now := before.system.now } }
  match result with
  | .ok status => alterJob j.number fun j => { j with ended := some (status, after) }
  | .error (.killed signal) =>
    alterJob j.number fun j => { j with ended := some (128 + signal, after) }
  | .error h => throw h

/-- Carries out the jobs that have ended by now. What would take longer has
not happened yet. -/
def advanceJobs (k : Again) : Act Unit := do
  for j in (← system).jobs do
    if j.ended.isNone && !j.runs then
      let before ← system
      match ← attempt (runJob k j) with
      | .error h => throw h
      | .ok _ =>
        let ended := ((← system).jobs.find? (·.number == j.number)).bind (·.ended)
        if ended.any fun e => before.now < e.2 then
          alterSystem fun _ => before

/-- Carries out a job to its end and waits for that: its status. -/
def awaitJob (k : Again) (n : Nat) : Act Nat := do
  let find := do return (← system).jobs.find? (·.number == n)
  match ← find with
  | none => return 127
  | some j =>
    if j.ended.isNone then runJob k j
    alterJob n fun j => { j with known := true }
    match (← find).bind (·.ended) with
    | some (status, time) =>
      alterSystem fun s => { s with now := max s.now time }
      return status
    | none => return 127

/-- Carries out the jobs that read what the current command has written. -/
def runReaders (k : Again) : Act Unit := do
  for j in (← system).jobs do
    if j.isReader && j.ended.isNone && !j.runs then runJob k j
  alterSystem fun s => { s with jobs := s.jobs.filter fun j => !j.isReader || j.ended.isNone }

/-- Ends the jobs that a signal has been sent to before they could end. -/
def stopJobs (k : Again) : Act Unit := do
  let w ← get
  for (n, signal) in w.system.signals do
    match w.system.jobs.find? (·.number == n) with
    | some j =>
      alterSystem fun s => { s with signals := s.signals.filter (· != (n, signal)) }
      if j.ended.isNone then
        advanceJobs k
        alterJob n fun j =>
          if j.ended.isNone && !harmlessSignals.contains signal then
            let trapped := (j.process.traps.lookup (signalName signal)).any (·.isEmpty)
            if trapped then j else { j with ended := some (128 + signal, w.system.now) }
          else j
    | none => pure ()

/-- How commands in words are carried out. -/
def runner (k : Again) : Runner where
  output body := do
    match soleInput? body with
    | some target =>
      if ← isExtended then
        captured k do
          match ← targetText k.runner target with
          | none => status 1
          | some cs =>
            match ← openPath cs { reads := true } with
            | .error reason =>
              complainOpen cs reason false
              status 1
            | .ok n =>
              write 1 (← takeOpened n (fun _ => false) none).1
              status 0
      else captured k (k.commands body)
    | none => captured k (if body.isEmpty then status 0 else k.commands body)
  outputOf script := captured k (k.script script)
  channel reads body := do
    let used := (← process).streams.map (·.1)
    let stream := ((List.range 50).map (63 - ·)).find? (!used.contains ·) |>.getD 13
    if reads then
      let (_, text) ← capturing (inSubshell k (k.commands body))
      let q ← addQueue text
      connect stream (← addOpened { channel := .queue q, reads := true })
    else
      let q ← addQueue []
      let input ← addOpened { channel := .queue q, reads := true }
      let _ ← addJob (.group body) true (connect 0 input)
      connect stream (← addOpened { channel := .queue q, writes := true })
    return "/dev/fd/".toList ++ digits stream

end Act

end ScriptMatrix.Sandbox.Shell
