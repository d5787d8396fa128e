import ScriptMatrix.Sandbox.Shell.Invoke

/-!
# `ScriptMatrix.Sandbox.Shell.Simple`: simple commands

A simple command has assignments, words and redirections. With words, the
assignments hold for this command alone; without any, they stay. The
extended dialect assigns before it redirects, the plain one after that.
-/

set_option autoImplicit false

namespace ScriptMatrix.Sandbox.Shell.Act

/-! ### Assignments -/

/-- The elements that are assigned to an array. -/
def expandElement (r : Runner) : Element → Act (List NewElement)
  | .next w => return (← expandWord r w).map fun cs => (none, cs)
  | .at index append w => do
    let i ← expandText r index
    return [(some (i, append), ← expandValue r w)]

/-- An assignment with what its words stand for. -/
def expandAssignment (r : Runner) : Assignment → Act Operand
  | .mk name index append (.text w) => do
    let i ← match index with
      | some i => do pure (some (← expandText r i))
      | none => pure none
    return .assigned name i append (← expandValue r w)
  | .mk name _ append (.elements es) =>
    return .elements name append ((← es.mapM (expandElement r)).flatten)

/-- Carries out an assignment. -/
def assign : Operand → Act Unit
  | .assigned name (some index) append cs => assignElement name index append cs
  | .assigned name none append cs => assignText name append cs
  | .elements name append es => assignElements name append false es
  | .text _ => return ()

/-- Carries out an assignment in the innermost scope, for programs to
know. A variable that keeps its value is complained about. -/
def assignTemporary (o : Operand) : Act Unit := do
  match o with
  | .assigned name none append cs =>
    let v := (← lookup? name).getD {}
    if v.constant then
      complainConstant name
      if !(← isExtended) then giveUp
    else
      let text ← shaped v append v.value? cs
      let new : Variable := { (Variable.ofText text) with
        exported := true, integer := v.integer, letters := v.letters }
      alter fun p => { p with scopes := match p.scopes with
        | s :: rest => { s with frame := s.frame.put name new } :: rest
        | [] => [⟨[(name, new)], true⟩] }
      afterAssign name text
  | o => assign o

/-! ### What is shown of a command -/

/-- Shows a command before it is carried out, if that is asked for. -/
def trace (words : List Chars) : Act Unit := do
  if ← isOn "xtrace" then
    let front := (← text? "PS4".toList).getD ['+', ' ']
    let level := (← process).level
    let extended ← isExtended
    let repeated := if extended then List.replicate level (front.headD '+') else []
    let shown :=
      if extended then words.map fun w => if w.isEmpty then ['\'', '\''] else quoteIfNeeded w
      else words
    write 2 (repeated ++ front ++ joinWith [' '] shown ++ ['\n'])

/-- Shows an assignment. -/
def traceAssignment (o : Operand) : Act Unit := do
  if ← isOn "xtrace" then
    match o with
    | .assigned name none append cs =>
      let extended ← isExtended
      let shown := if extended && !cs.isEmpty then quoteIfNeeded cs else cs
      let front := (← text? "PS4".toList).getD ['+', ' ']
      let p ← process
      let level := if extended then p.level else 0
      write 2 (List.replicate level (front.headD '+') ++ front ++ name ++
        (if append then ['+', '='] else ['=']) ++ shown ++ ['\n'])
    | _ => return ()

/-! ### The parts together -/

/-- The texts of words and assignments behind the name of a command. -/
def expandArguments (r : Runner) (args : List Argument) : Act (List Operand) := do
  let mut found : List Operand := []
  for a in args do
    match a with
    | .word w => found := found ++ (← expandWord r w).map Operand.text
    | .assignment a => found := found ++ [← expandAssignment r a]
  return found

/-- Whether a command changes streams for good. -/
def keepsStreams (os : List Operand) : Act Bool := do
  let words := os.map Operand.toText
  let words := words.filter fun w =>
    w != "command".toList && w != "builtin".toList && w != ['-', '-']
  return words == ["exec".toList] && !(← process).functions.any (·.1 == "exec".toList)

/-- Carries out a command with assignments that hold for it alone; those of
special commands of the plain dialect stay. -/
def withAssignments (k : Again) (as : List Assignment) (os : List Operand)
    (step : Act Nat) : Act Nat := do
  if as.isEmpty then return ← step
  let p ← process
  let name := ((os.head?).map Operand.toText).getD []
  let word := String.ofList name
  if p.dialect == .plain && specialNames.contains word then
    for a in as do
      assign (← expandAssignment k.runner a)
      if word == "exec" then
        let .mk n _ _ _ := a
        let v := (← plainLookup? n).getD {}
        store n { v with exported := true }
    step
  else
    let depth := p.scopes.length
    alter fun p => { p with scopes := ⟨[], true⟩ :: p.scopes }
    thenAlways (do
      for a in as do
        let o ← expandAssignment k.runner a
        traceAssignment o
        assignTemporary o
      match p.functions.lookup name with
      | some f =>
        let own := ((← process).scopes.head?.map (·.frame)).getD []
        alter fun p => { p with scopes := p.scopes.drop 1 }
        call k name f own ((os.drop 1).map Operand.toText)
      | none => step) (alter fun p => { p with scopes := p.scopes.drop (p.scopes.length - depth) })

/-- Carries out assignments that stay. -/
def assignAll (k : Again) (as : List Assignment) : Act Unit := do
  for a in as do
    let o ← expandAssignment k.runner a
    traceAssignment o
    assign o

/-- What comes behind a command: what reads its output, signals, and time
that has passed. -/
def afterCommand (k : Again) (began : Nat) : Act Unit := do
  let s ← system
  if s.jobs.any (·.isReader) then runReaders k
  if !s.signals.isEmpty then stopJobs k
  if began < (← system).now && !s.jobs.isEmpty then advanceJobs k
  alter fun p => { p with parts := [p.status] }
  receive k
  settle k

/-- Carries out a simple command without words. -/
def assignOnly (k : Again) (as : List Assignment) (rs : List Redirect) : Act Unit := do
  let finish := do status ((← process).taken.getD 0)
  if ← isExtended then
    assignAll k as
    redirected k.runner rs (status 1) finish
    storeText ['_'] []
  else
    redirected k.runner rs (status 2) (do
      assignAll k as
      finish)

/-- Carries out a simple command with words. -/
def runWords (k : Again) (as : List Assignment) (os : List Operand) (rs : List Redirect) :
    Act Unit := do
  let extended ← isExtended
  let first := ((os.head?).map Operand.toText).getD []
  let run := do status (← invoke k (os.length + 1) true os)
  let failed := do
    status (if extended then 1 else 2)
    if !extended && specialNames.contains (String.ofList first) then giveUp
  let traced := trace (os.map Operand.toText)
  if ← keepsStreams os then
    traced
    status (← withAssignments k as os do
      if ← redirectAll k.runner rs then return 0
      failed
      return (← process).status)
  else if extended then
    status (← withAssignments k as os do
      traced
      redirected k.runner rs failed run
      return (← process).status)
    storeText ['_'] (((os.getLast?).map Operand.toText).getD [])
  else
    redirected k.runner rs failed do
      status (← withAssignments k as os do
        traced
        run
        return (← process).status)

/-- Carries out a simple command. -/
def simple (k : Again) (line : Nat) (as : List Assignment) (args : List Argument)
    (rs : List Redirect) : Act Unit := do
  alter fun p => { p with line := line, taken := none }
  let began := (← system).now
  if ← isExtended then runEvent k "DEBUG" "functrace"
  let before := (← process).streams
  let keeps ← (do
    let os ← expandArguments k.runner args
    if os.isEmpty then
      assignOnly k as rs
      return false
    else
      runWords k as os rs
      keepsStreams os : Act Bool)
  -- What words have opened is closed again.
  if !keeps then
    alter fun p =>
      let left := p.streams.filter fun e => e.1 < 14 || before.any (·.1 == e.1)
      { p with streams := left }
  afterCommand k began

end ScriptMatrix.Sandbox.Shell.Act
