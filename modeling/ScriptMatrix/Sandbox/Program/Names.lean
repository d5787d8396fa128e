import ScriptMatrix.Sandbox.Calendar
import ScriptMatrix.Sandbox.Program.Files
import ScriptMatrix.Sandbox.Real

/-!
# `ScriptMatrix.Sandbox.Program.Names`: programs about names

Paths are taken apart, and what surrounds a program is asked about: the
directory, the variables, the time.
-/

set_option autoImplicit false

namespace ScriptMatrix.Sandbox.Program

open Sandbox.Shell

/-- Shows the last names of paths. -/
def basename : Body := fun args => do
  let args := shorten [("multiple", 'a'), ("suffix", 's'), ("zero", 'z')] args
  match Options.read "az" "s" args with
  | .error t => complainOptions "basename" 1 t
  | .ok o =>
    let several := o.has 'a' || o.has 's'
    let ending : Chars := if o.has 'z' then ['\x00'] else ['\n']
    let strip := fun (suffix name : Chars) =>
      if suffix.length < name.length then dropSuffix suffix name else name
    match o.arguments with
    | [] =>
      complain "basename" "missing operand".toList
      return 1
    | first :: rest =>
      if several then
        let suffix := (o.value? 's').getD []
        for path in o.arguments do Act.write 1 (strip suffix (lastName path) ++ ending)
        return 0
      match rest with
      | _ :: extra :: _ =>
        complain "basename" ("extra operand ".toList ++ quoted extra)
        return 1
      | _ =>
        Act.write 1 (strip (rest.headD []) (lastName first) ++ ending)
        return 0

/-- A path without its last name. -/
def withoutName (path : Chars) : Chars :=
  let trimmed := path.reverse.dropWhile (· == '/')
  let rest := trimmed.dropWhile (· != '/')
  let above := rest.dropWhile (· == '/')
  if trimmed.isEmpty then if path.isEmpty then ['.'] else ['/']
  else if rest.isEmpty then ['.']
  else if above.isEmpty then ['/']
  else above.reverse

/-- Shows paths without their last names. -/
def dirname : Body := fun args => do
  match Options.read "z" "" (shorten [("zero", 'z')] args) with
  | .error t => complainOptions "dirname" 1 t
  | .ok o =>
    if o.arguments.isEmpty then
      complain "dirname" "missing operand".toList
      return 1
    for path in o.arguments do
      Act.write 1 (withoutName path ++ (if o.has 'z' then ['\x00'] else ['\n']))
    return 0

/-- Shows where paths lead. -/
def realpath (name : String) (always : Bool) : Body := fun args => do
  match Options.readAnywhere "femnqsz" "" args with
  | .error t => complainOptions name 1 t
  | .ok o =>
    let mut status := 0
    for path in o.arguments do
      let t ← Act.tree
      let follows := always || o.has 'f' || o.has 'e' || o.has 'm'
      match t.walk (pathOf path), t.target (pathOf path) with
      | .ok place, _ =>
        if follows then Act.write 1 (placeText place ++ ['\n']) else status := 1
      | .error _, .ok (place, _) =>
        if follows && !o.has 'e' then Act.write 1 (placeText place ++ ['\n'])
        else
          complain name (path ++ ": No such file or directory".toList)
          status := 1
      | .error fault, .error _ =>
        complain name (path ++ ": ".toList ++ (reasonOf fault).toList)
        status := 1
    return status

/-- Shows the directory. -/
def pwd : Body := fun _ => do
  Act.write 1 (placeText (← Act.process).directory ++ ['\n'])
  return 0

/-- Shows the values of variables. -/
def printenv : Body := fun args => do
  let all ← Act.environment
  if args.isEmpty then
    for (name, cs) in all.reverse do Act.write 1 (name ++ ['='] ++ cs ++ ['\n'])
    return 0
  let mut status := 0
  for name in args do
    match all.lookup name with
    | some cs => Act.write 1 (cs ++ ['\n'])
    | none => status := 1
  return status

/-- Shows the time. -/
def date : Body := fun args => do
  let args := args.filter fun a => a != ['-', 'u'] && a != "--utc".toList
  let now : Int := 1700000000 + (← Act.system).now / 1000
  let (t, rest) : Option Int × List Chars := match args with
    | ['-', 'd'] :: d :: rest => (moment now d, rest)
    | a :: rest =>
      if "--date=".toList.isPrefixOf a then (moment now (a.drop 7), rest)
      else if "-d".toList.isPrefixOf a then (moment now (a.drop 2), rest)
      else (some now, args)
    | [] => (some now, [])
  match t, rest with
  | none, _ =>
    complain "date" "invalid date".toList
    return 1
  | some t, [] =>
    Act.write 1 (Date.format t 200 "%a %b %e %H:%M:%S %Z %Y".toList ++ ['\n'])
    return 0
  | some t, ('+' :: format) :: _ =>
    Act.write 1 (Date.format t (2 * format.length + 8) format ++ ['\n'])
    return 0
  | some t, a :: _ =>
    if a.head? == some '-' then
      Act.write 1 (Date.format t 200 "%F".toList ++ ['\n'])
      return 0
    complain "date" ("invalid date ".toList ++ quoted a)
    return 1
where
  /-- The moment that a text writes. -/
  moment (now : Int) (cs : Chars) : Option Int :=
    match cs with
    | '@' :: ds => integer? ds
    | _ => if cs == "now".toList || cs.isEmpty then some now else none

/-- The length of a time in thousandths of a second, with a unit. -/
def duration? (cs : Chars) : Option Nat :=
  let (unit, body) := match cs.reverse with
    | 's' :: rest => (1, rest.reverse)
    | 'm' :: rest => (60, rest.reverse)
    | 'h' :: rest => (3600, rest.reverse)
    | 'd' :: rest => (86400, rest.reverse)
    | _ => (1, cs)
  match Real.read? 64 body with
  | some (.finite false n d, []) => some (n * unit * 1000 / d)
  | some (.infinite false, []) => some 1000000000
  | _ => none

/-- Waits for a while, in seconds or larger units. -/
def sleep : Body := fun args => do
  if args.isEmpty then
    complain "sleep" "missing operand".toList
    return 1
  match args.mapM duration? with
  | some times =>
    Act.alterSystem fun s => { s with now := s.now + times.foldl (· + ·) 0 }
    return 0
  | none =>
    complain "sleep" ("invalid time interval ".toList ++ quoted (args.headD []))
    return 1

/-- Shows a text again and again, until nobody reads it. -/
def yes : Body := fun args => do
  let line := (if args.isEmpty then ['y'] else joinWith [' '] args) ++ ['\n']
  let block := (List.replicate 512 line).flatten
  Act.repeating (fun (_ : Unit) => do
    match ← Act.write? 1 block with
    | none =>
      -- What is not kept has no end.
      if ← endless then throw .exhausted else return some ()
    | some _ => return none) ()
  return 1
where
  /-- Whether the output leads to no pipe. -/
  endless : Act Bool := do
    match ← Act.openNumber? 1 with
    | none => return true
    | some n =>
      match ← Act.opened? n with
      | some { channel := .queue _, .. } => return false
      | _ => return true

/-- Shows a fixed text. -/
def fixed (text : String) : Body := fun _ => do
  Act.write 1 (text.toList ++ ['\n'])
  return 0

/-- Shows who one is. -/
def id : Body := fun args => do
  let flags := args.flatMap fun a => a.drop 1
  let text :=
    if flags.contains 'n' then "root"
    else if flags.contains 'u' || flags.contains 'g' || flags.contains 'G' then "0"
    else "uid=0(root) gid=0(root) groups=0(root)"
  Act.write 1 (text.toList ++ ['\n'])
  return 0

/-- Tells about a file. -/
def stat : Body := fun args => do
  let paths := args.filter fun a => a.head? != some '-'
  let mut status := 0
  for path in paths do
    match ← lookAt path with
    | .ok (_, e) =>
      let size := match e with
        | .file b => b.length
        | _ => 0
      if args.contains ['-', 'c'] then
        if path != "%s".toList then Act.write 1 (digits size ++ ['\n'])
      else Act.write 1 ("  File: ".toList ++ path ++ ['\n'])
    | .error reason =>
      if path.head? != some '%' then
        complainPath "stat" "cannot statx " path reason
        status := 1
  return status

end ScriptMatrix.Sandbox.Program
