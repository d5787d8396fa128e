import ScriptMatrix.Sandbox.Shell.Builtin.Job
import ScriptMatrix.Sandbox.Shell.Start

/-!
# `ScriptMatrix.Sandbox.Shell.Builtin.Running`: commands that run others

Some commands of the shell carry out scripts or programs, in the shell
itself or in its place, or wait for those in the background.
-/

set_option autoImplicit false

namespace ScriptMatrix.Sandbox.Shell.Act

/-- Carries out arguments as a script. -/
def eval (k : Again) (args : List Chars) : Act Nat := do
  match ← withoutOptions "eval".toList args with
  | .error status => return status
  | .ok args =>
    let before ← process
    if before.dialect == .plain then alter fun p => { p with inside := "eval".toList }
    let r ← attempt (k.script (joinWith [' '] args))
    alter fun p => { p with inside := before.inside }
    ofResult r
    return (← process).status

/-- The path of a file of commands: it may be found where programs are. -/
def commandFile? (cs : Chars) : Act (Option Chars) := do
  let isFile := fun (path : Chars) => do
    return match (← tree).find? (pathOf path) with
      | some (.file _) | some .void => true
      | _ => (streamPath? path).isSome
  if cs.contains '/' then return some cs
  match ← (← candidates cs).findM? fun path => isFile path with
  | some path => return some path
  | none => return if ← isExtended then some cs else none

/-- Carries out a file of commands. -/
def source (k : Again) (args : List Chars) : Act Nat := do
  let command : Chars := ['.']
  match ← withoutOptions command args with
  | .error status => return status
  | .ok [] =>
    if ← isExtended then
      complainOf command "filename argument required".toList
      return 2
    else return 0
  | .ok (name :: rest) =>
    let extended ← isExtended
    match ← commandFile? name with
    | none =>
      complainOf command (name ++ ": not found".toList)
      refuse 1
    | some path =>
      match ← Program.readPath path with
      | .error reason =>
        if extended then
          let front := if reason == "Is a directory" then ".: ".toList else []
          complain (front ++ name ++ ": ".toList ++
            (if reason == "Is a directory" then "is a directory" else reason).toList)
        else complainOf command ("cannot open ".toList ++ name ++
          (if reason == "No such file or directory" then ": No such file"
            else ": " ++ reason).toList)
        refuse 1
      | .ok text =>
        let before ← process
        alter fun p => { p with
          sources := p.sources + 1, inside := path,
          arguments := if extended && !rest.isEmpty then rest else p.arguments }
        let r ← attempt (runScript k.commands false text 1)
        match r with
        | .error (.returned n) => status n
        | _ => pure ()
        alter fun p => { p with
          sources := before.sources, inside := before.inside, line := before.line,
          arguments := if extended && !rest.isEmpty then before.arguments else p.arguments }
        if extended then
          match (← process).traps.lookup "RETURN".toList with
          | some action => if !(← process).trapsInherited then runTrap k action
          | none => pure ()
        match r with
        | .error (.returned n) => return n
        | r =>
          ofResult r
          return (← process).status

/-- Puts a program in the place of the shell. -/
def exec (k : Again) (args : List Chars) : Act Nat := do
  let command := "exec".toList
  let extended ← isExtended
  match if extended then Options.read "cl" "a" args
      else .ok ⟨[], if args.head? == some ['-', '-'] then args.drop 1 else args⟩ with
  | .error e => complainOptions command e
  | .ok o =>
    match o.arguments with
    | [] => return 0
    | name :: rest =>
      let fail := fun (reason : String) => do
        let missing := reason == "No such file or directory" || reason == "required file not found"
        if extended then
          if missing then complainOf command (name ++ ": not found".toList)
          else
            complainOf command (name ++ ": cannot execute: ".toList ++ reason.toList)
            alter fun p => { p with traps := p.traps.filter (·.1 != "EXIT".toList) }
        else
          let reason := if missing then "not found"
            else if reason == "Is a directory" then "Permission denied" else reason
          complainOf command (name ++ ": ".toList ++ reason.toList)
        if extended && (← hasExtra "execfail") then return if missing then 127 else 126
        throw (.exited (if missing then 127 else 126))
      match ← findProgram name with
      | .error reason => fail reason
      | .ok (path, place) =>
        match ← launch k 5 ((o.value? 'a').getD name) path place rest with
        | .error reason => fail reason
        | .ok ending =>
          alter fun p => { p with traps := p.traps.filter (·.1 != "EXIT".toList) }
          match ending with
          | .exited status => throw (.exited status)
          | .killed signal => throw (.killed signal)

/-- Waits for the first of the jobs that ends. -/
def waitFirst (k : Again) : Act Nat := do
  for j in ← ownJobs do
    if j.ended.isNone then runJob k j
  let first := ((← ownJobs).filter (!·.known)).foldl (fun (best : Option Job) j =>
    match best.bind (·.ended), j.ended with
    | some b, some e => if e.2 < b.2 then some j else best
    | none, _ => some j
    | _, none => best) none
  match first with
  | some j => awaitJob k j.number
  | none => return 127

/-- Waits for the job that an argument means. -/
def waitFor (k : Again) (a : Chars) : Act Nat := do
  let command := "wait".toList
  let extended ← isExtended
  if a.head? == some '%' then
    match ← jobOf? a with
    | some j => awaitJob k j.number
    | none =>
      if extended then complainOf command (a ++ ": no such job".toList)
      else complainOf command ("No such job: ".toList ++ a)
      failing 127 2
  else
    match natural? a with
    | some n =>
      if (← ownJobs).any (·.number == n) then awaitJob k n
      else
        if extended then
          complainOf command ("pid ".toList ++ a ++ " is not a child of this shell".toList)
        return 127
    | none =>
      if extended then
        complainOf command ([Char.ofNat 96] ++ a ++ "': not a pid or valid job spec".toList)
        return 1
      else
        complainOf command ("Illegal number: ".toList ++ a)
        return 2

/-- Waits for jobs. -/
def wait (k : Again) (args : List Chars) : Act Nat := do
  match if ← isExtended then Options.read "fn" "p" args else Options.read "" "" args with
  | .error e => complainOptions "wait".toList e
  | .ok o =>
    if o.has 'n' then return ← waitFirst k
    if o.arguments.isEmpty then
      for j in ← ownJobs do
        let _ ← awaitJob k j.number
      return 0
    let mut status := 0
    for a in o.arguments do status ← waitFor k a
    return status

/-- Computes sums: the status tells whether the last one is zero. -/
def let_ (args : List Chars) : Act Nat := do
  if args.isEmpty then
    complainOf "let".toList "expression expected".toList
    return 1
  let mut value : Int := 0
  for a in args do
    match ← attempt (evaluate a) with
    | .ok i => value := i
    | .error (.abandoned _) => return 1
    | .error h => throw h
  return if value == 0 then 1 else 0

/-- Tells where a function has been called. -/
def caller (args : List Chars) : Act Nat := do
  let p ← process
  let at' := (args.head?.bind natural?).getD 0
  match p.calls[at']? with
  | none =>
    if args.isEmpty then
      write 1 "0 NULL\n".toList
      return 0
    return 1
  | some c =>
    let outer := ((p.calls[at' + 1]?).map (·.name)).getD "main".toList
    write 1
      (digits c.line ++ (if args.isEmpty then [] else ' ' :: outer) ++ [' '] ++ p.name ++ ['\n'])
    return 0

end ScriptMatrix.Sandbox.Shell.Act
