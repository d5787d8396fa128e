import ScriptMatrix.Sandbox.Shell.Conditional
import ScriptMatrix.Sandbox.Shell.Loop

/-!
# `ScriptMatrix.Sandbox.Shell.Evaluation`: carrying out commands

A command is carried out by a `step` that leaves the commands inside of it
to whoever calls it. `again` closes the circle: it carries out commands
that are nested up to a depth.
-/

set_option autoImplicit false

namespace ScriptMatrix.Sandbox.Shell.Act

/-! ### Pipes -/

/-- How much is written ahead of the reader of a pipe. -/
def pipeSize : Nat := 65536

/-- Carries out the parts of a pipe, each of which reads what the one
before has written: what they end with, and the queues between them. -/
def runParts (k : Again) (began : Nat) (lastHere : Bool) :
    Option Nat → List Command → Act (List Nat × List Nat)
  | _, [] => return ([], [])
  | input, c :: rest => do
    alterSystem fun s => { s with now := began }
    let connectInput := do
      match input with
      | some q => connect 0 (← addOpened { channel := .queue q, reads := true })
      | none => return ()
    if rest.isEmpty then
      if lastHere then
        let streams := (← process).streams
        thenAlways (do
          connectInput
          k.commands [c]) (alter fun p => { p with streams := streams })
        return ([(← process).status], [])
      else
        return ([← inSubshell k do
          connectInput
          k.commands [c]], [])
    else
      let q ← addQueue []
      let status ← inSubshell k do
        connectInput
        connect 1 (← addOpened { channel := .queue q, writes := true })
        k.commands [c]
      let ended := (← system).now
      let (statuses, queues) ← runParts k began lastHere (some q) rest
      alterSystem fun s => { s with now := max s.now ended }
      return (status :: statuses, q :: queues)

/-- Carries out a pipe. -/
def pipeline (k : Again) (parts : List Command) : Act Unit := do
  let began := (← system).now
  let lastHere := (← isExtended) && (← hasExtra "lastpipe")
  let (statuses, queues) ← runParts k began lastHere none parts
  -- Who has written too much for a reader that has gone is stopped.
  let left := (← system).queues
  let size := fun (q : Nat) => match left[q]? with
    | some held => held.settled.front.length
    | none => 0
  let late := queues.map fun q => decide (pipeSize < size q)
  let final := (statuses.zip (late ++ [false])).map fun (s, isLate) =>
    if isLate then 128 + brokenPipe else s
  alterSystem fun s => { s with queues := queues.foldl (fun qs q => qs.set! q {}) s.queues }
  let failed := (final.reverse.find? (· != 0)).getD 0
  let result := if ← isOn "pipefail" then failed else final.getLast?.getD 0
  alter fun p => { p with status := result, parts := final }
  receive k
  settle k

/-! ### Choices -/

/-- Carries out the body behind the first condition that holds. -/
def choose (k : Again) (otherwise : List Command) : List Branch → Act Unit
  | [] => if otherwise.isEmpty then status 0 else k.commands otherwise
  | .mk condition body :: rest => do
    guarding (k.commands condition)
    if (← process).status == 0 then k.commands body else choose k otherwise rest

/-- Whether a text fits one of the patterns. -/
def fitsAny (r : Runner) (text : Chars) : List Word → Act Bool
  | [] => return false
  | w :: rest => do
    let groups ← hasExtra "extglob"
    let p ← expandPattern r w
    if Glob.fits (← hasExtra "nocasematch") (Glob.ofChars groups p) text then return true
    fitsAny r text rest

/-- Carries out what belongs to the first patterns that a text fits. With
`falls`, the next patterns do not matter; the result so far becomes the
status at the end. -/
def select (k : Again) (text : Chars) : Bool → Nat → List Case → Act Unit
  | _, result, [] => status result
  | falls, result, .mk patterns body ending :: rest => do
    if ← (if falls then return true else fitsAny k.runner text patterns) then
      k.commands body
      let now := (← process).status
      let result := if body.isEmpty then 0 else now
      match ending with
      | .stop => status result
      | .fallThrough => select k text true result rest
      | .goOn => select k text false result rest
    else select k text false result rest

/-! ### All commands -/

/-- Ends a command that asks something. -/
def answered (k : Again) (result : Nat) : Act Unit := do
  alter fun p => { p with status := result, parts := [result] }
  settle k

/-- Carries out a command, where `k` carries out those inside of it. -/
def step (k : Again) (c : Command) : Act Unit := do
  if ← isOn "noexec" then return ()
  match c with
  | .simple line as args rs => simple k line as args rs
  | .pipeline parts => pipeline k parts
  | .negated c =>
    guarding (k.commands [c])
    status (if (← process).status == 0 then 1 else 0)
  | .timed c =>
    k.commands [c]
    write 2 "\nreal\t0m0.000s\nuser\t0m0.000s\nsys\t0m0.000s\n".toList
  | .both first second =>
    guarding (k.commands [first])
    if (← process).status == 0 then k.commands [second]
  | .either first second =>
    guarding (k.commands [first])
    if (← process).status != 0 then k.commands [second]
  | .background c =>
    let input ← addOpened { channel := .void, reads := true }
    let n ← addJob c false (connect 0 input)
    alter fun p => { p with status := 0, lastJob := some n }
  | .group body => k.commands body
  | .subshell body =>
    let result ← inSubshell k (k.commands body)
    alter fun p => { p with status := result, parts := [result] }
    receive k
    settle k
  | .redirected line c rs =>
    let code := if ← isExtended then 1 else 2
    alter fun p => { p with line := line }
    let failed := do
      status code
      settle k
    let streams := (← process).streams
    let close := alter fun p =>
      let left := p.streams.filter fun e => e.1 < 14 || streams.any (·.1 == e.1)
      { p with streams := left }
    thenAlways (redirected k.runner rs failed (k.commands [c])) close
    if (← system).jobs.any (·.isReader) then runReaders k
  | .function name body =>
    alter fun p => { p with
      functions := (name, body) :: p.functions.filter (·.1 != name), status := 0 }
  | .choice branches otherwise => choose k otherwise branches
  | .select line subject cases =>
    alter fun p => { p with line := line, taken := none }
    let text ← expandText k.runner subject
    select k text false 0 cases
  | .loop isUntil condition body => loop k isUntil condition body
  | .count line start condition next body => count k line start condition next body
  | .each line name words body => each k line name words body
  | .menu line name words body => menu k line name words body
  | .sum line pieces =>
    alter fun p => { p with line := line, taken := none }
    runEvent k "DEBUG" "functrace"
    match ← sumValue? k.runner 0 pieces with
    | some i => answered k (if i == 0 then 1 else 0)
    | none => answered k 1
  | .condition line c =>
    alter fun p => { p with line := line, taken := none }
    runEvent k "DEBUG" "functrace"
    match ← answer k.runner c with
    | some true => answered k 0
    | some false => answered k 1
    | none => answered k 2

/-- Carries out commands that are nested no deeper than the given depth. -/
def again : Nat → Again
  | 0 => {
      commands := fun _ => throw .exhausted
      script := fun _ => throw .exhausted
      runner := ⟨fun _ => throw .exhausted, fun _ => throw .exhausted, fun _ _ => throw .exhausted⟩
      start := fun _ => throw .exhausted }
  | depth + 1 =>
    let k := again depth
    let commands := fun (cs : List Command) => cs.forM (step k)
    { commands := commands
      script := fun text => do runScript commands false text (← process).line
      runner := runner k
      start := start k }

/-- How deep commands may be nested. -/
def depthLimit : Nat := 3000

end ScriptMatrix.Sandbox.Shell.Act
