import ScriptMatrix.Sandbox.Program.Names
import ScriptMatrix.Sandbox.Shell.Lookup

/-!
# `ScriptMatrix.Sandbox.Program.Launch`: programs that start others

Some programs get a program with its arguments, change what surrounds it,
and start it: once, or again and again for what they read.
-/

set_option autoImplicit false

namespace ScriptMatrix.Sandbox.Program

open Sandbox.Shell

/-- Starts a program by its name with its arguments: its status, or why it
cannot be started. -/
abbrev Start := List Chars → Act (Except String Nat)

/-- A name between the quotes that programs put around names. -/
def fancyQuoted (cs : Chars) : Chars := ofText "‘" ++ cs ++ ofText "’"

/-- Starts a program for another one, which complains if that is not
possible: the status. -/
def startFor (name : String) (start : Start) (words : List Chars) : Act Nat := do
  match ← start words with
  | .ok status => return status
  | .error reason =>
    let word := words.headD []
    complain name (fancyQuoted word ++ ": ".toList ++ reason.toList)
    return if reason == "No such file or directory" then 127 else 126

/-- Carries out a step in what surrounds a program, which is afterwards as
it was. -/
def aside {α : Type} (step : Act α) : Act α := do
  let before ← Act.process
  let r ← Act.attempt step
  Act.alter fun _ => before
  Act.ofResult r

/-- No variable is known to programs any longer, or not the one with a
name. -/
def unexport (name : Option Chars) : Act Unit := Act.alter fun p =>
  let hide := fun (e : Chars × Variable) =>
    if name.all (· == e.1) then (e.1, { e.2 with exported := false }) else e
  { p with scopes := p.scopes.map fun s => { s with frame := s.frame.map hide } }

/-- Makes a variable known to programs. -/
def exportText (name cs : Chars) : Act Unit :=
  Act.alter fun p => { p with scopes :=
    ⟨[(name, { Variable.ofText cs with exported := true })], true⟩ :: p.scopes }

/-- The words of a text that a program takes apart itself. -/
def splitWords (cs : Chars) : List Chars :=
  ((cs.splitBy fun a b => isSpace a == isSpace b).filter fun w => !w.any isSpace)

/-- Starts a program with other variables, or shows them. -/
def env (start : Start) : Body := fun args => do
  let args := shorten [("ignore-environment", 'i'), ("unset", 'u'), ("chdir", 'C'),
    ("null", '0'), ("split-string", 'S')] args
  let args := args.flatMap fun a => if a == ['-'] then [['-', 'i']] else [a]
  let args := match args with
    | ['-', 'S'] :: text :: rest => splitWords text ++ rest
    | ('-' :: 'S' :: text) :: rest => splitWords text ++ rest
    | args => args
  match Options.read "i0v" "uC" args with
  | .error t => complainOptions "env" 125 t
  | .ok o => aside do
    if o.has 'i' then unexport none
    for (c, name) in o.letters do
      if c == 'u' then unexport (some name)
    let isSetting := fun (a : Chars) => a.contains '='
    let settings := o.arguments.takeWhile isSetting
    for a in settings do
      let name := a.takeWhile (· != '=')
      exportText name (a.drop (name.length + 1))
    match o.value? 'C' with
    | some dir =>
      match (← Act.tree).walk (pathOf dir) with
      | .ok place => Act.alter fun p => { p with directory := place }
      | .error fault =>
        complain "env" ("cannot change directory to ".toList ++ fancyQuoted dir ++
          ": ".toList ++ (reasonOf fault).toList)
        return 125
    | none => pure ()
    match o.arguments.drop settings.length with
    | [] =>
      for (name, cs) in ← Act.environment do
        Act.write 1 (name ++ ['='] ++ cs ++ [if o.has '0' then '\x00' else '\n'])
      return 0
    | words => startFor "env" start words

/-- Starts a program after options that are of no interest here. -/
def plainly (name : String) (valued : String) : Start → Body := fun start args => do
  let isOwn := fun (a : Chars) => a.head? == some '-' && a != ['-', '-']
  let rec skip : Nat → List Chars → List Chars
    | 0, as => as
    | fuel + 1, as =>
      match as with
      | ['-', '-'] :: rest => rest
      | ['-', c] :: v :: rest =>
        if valued.toList.contains c then skip fuel rest else skip fuel (v :: rest)
      | a :: rest => if isOwn a then skip fuel rest else as
      | [] => []
  match skip (args.length + 1) args with
  | [] =>
    complain name "missing operand".toList
    return 125
  | words => startFor name start words

/-- Starts a program and stops it after a while. -/
def timeout (start : Start) : Body := fun args => do
  let args := shorten [("signal", 's'), ("kill-after", 'k'), ("preserve-status", 'p'),
    ("foreground", 'f'), ("verbose", 'v')] args
  match Options.read "pfv" "sk" args with
  | .error t => complainOptions "timeout" 125 t
  | .ok o =>
    match o.arguments with
    | limit :: word :: rest =>
      match duration? limit with
      | none =>
        complain "timeout" ("invalid time interval ".toList ++ fancyQuoted limit)
        return 125
      | some limit =>
        let began := (← Act.system).now
        let status ← startFor "timeout" start (word :: rest)
        let after ← Act.system
        if limit == 0 || after.now ≤ began + limit then return status
        let stop := began + limit
        Act.alterSystem fun s =>
          { s with now := stop, shown := s.shown.filter fun e => e.1 ≤ stop }
        let kills := (o.value? 's').any fun s => s == ['9'] || s == "KILL".toList
        return if kills then 137 else if o.has 'p' then 143 else 124
    | _ =>
      complain "timeout" "missing operand".toList
      return 125

/-- Takes a text apart into arguments: at blanks, where quotes and
backslashes hide them. None, if a quote is not closed. -/
def splitArguments : Nat → Option Chars → Chars → Option (List Chars)
  | 0, _, _ => some []
  | fuel + 1, word, cs =>
    let finish := fun (rest : Option (List Chars)) => match word with
      | some w => rest.map (w.reverse :: ·)
      | none => rest
    match cs with
    | [] => finish (some [])
    | '\\' :: c :: rest => splitArguments fuel (some (c :: word.getD [])) rest
    | c :: rest =>
      if isSpace c then finish (splitArguments fuel none rest)
      else if c == '\'' || c == '"' then
        let inner := rest.takeWhile fun d => d != c && d != '\n'
        if (rest.drop inner.length).head? == some c then
          splitArguments fuel (some (inner.reverse ++ word.getD [])) (rest.drop (inner.length + 1))
        else none
      else splitArguments fuel (some (c :: word.getD [])) rest

/-- The parts of a list, of a certain length each. -/
def chunks {α : Type} (n : Nat) : Nat → List α → List (List α)
  | 0, _ => []
  | fuel + 1, xs => if xs.isEmpty then [] else xs.take n :: chunks n fuel (xs.drop n)

/-- A text with another one in place of a part wherever that stands. -/
def replaceAll (part new : Chars) : Nat → Chars → Chars
  | 0, cs => cs
  | fuel + 1, cs =>
    match cs with
    | [] => []
    | c :: rest =>
      if !part.isEmpty && part.isPrefixOf cs then
        new ++ replaceAll part new fuel (cs.drop part.length)
      else c :: replaceAll part new fuel rest

/-- Starts a program with what is read as its arguments. -/
def xargs (start : Start) : Body := fun args => do
  let args := shorten [("null", '0'), ("no-run-if-empty", 'r'), ("max-args", 'n'),
    ("max-lines", 'L'), ("delimiter", 'd'), ("verbose", 't'), ("arg-file", 'a'),
    ("max-procs", 'P'), ("replace", 'I')] args
  let args := args.map fun a => if a == ['-', 'i'] then "-I\x7b\x7d".toList else a
  match Options.read "0rtx" "nILdPsaE" args with
  | .error t => complainOptions "xargs" 1 t
  | .ok o =>
    let input ← match o.value? 'a' with
      | some path =>
        match ← readPath path with
        | .ok cs => pure cs
        | .error reason =>
          complain "xargs" ("Cannot open input file ".toList ++ fancyQuoted path ++ ": ".toList ++
            reason.toList)
          return 1
      | none => Act.takeAll 0
    let words := if o.arguments.isEmpty then ["echo".toList] else o.arguments
    let delimiter : Option Char := if o.has '0' then some '\x00' else
      (o.value? 'd').bind fun d => match d with
        | ['\\', 'n'] => some '\n'
        | ['\\', 't'] => some '\t'
        | ['\\', '0'] => some '\x00'
        | c :: _ => some c
        | [] => none
    let fuel := input.length + 2
    let byDelimiter := fun (d : Char) =>
      let parts := splitOn d input
      if parts.getLast? == some [] then parts.dropLast else parts
    let split := fun (cs : Chars) => splitArguments fuel none cs
    let lines := (bareLines input).filter fun l => !l.all isGap
    let groups : Option (List (List Chars)) := match o.value? 'I', delimiter with
      | some _, some d => some ((byDelimiter d).map ([·]))
      | some _, none => some (lines.map fun l => [l.dropWhile isGap])
      | none, some d =>
        let all := byDelimiter d
        some (match (o.value? 'n').bind natural? with
          | some (n + 1) => chunks (n + 1) fuel all
          | _ => if all.isEmpty then [] else [all])
      | none, none =>
        match (o.value? 'L').bind natural?, (o.value? 'n').bind natural? with
        | some (n + 1), _ =>
          (chunks (n + 1) fuel lines).mapM fun g => (g.mapM split).map List.flatten
        | _, some (n + 1) => (split input).map (chunks (n + 1) fuel)
        | _, _ => (split input).map fun all => if all.isEmpty then [] else [all]
    match groups with
    | none =>
      complain "xargs" ("unmatched single quote; by default quotes are special to xargs " ++
        "unless you use the -0 option").toList
      return 1
    | some groups =>
      let groups := if groups.isEmpty && !o.has 'r' && !o.has 'I' then [[]] else groups
      let mut result := 0
      for g in groups do
        let command := match o.value? 'I' with
          | some mark => words.take 1 ++ (words.drop 1).map fun w =>
              replaceAll mark (g.headD []) (w.length + 1) w
          | none => words ++ g
        if o.has 't' then Act.write 2 (joinWith [' '] command ++ ['\n'])
        match ← start command with
        | .error reason =>
          complain "xargs" (command.headD [] ++ ": ".toList ++ reason.toList)
          return if reason == "No such file or directory" then 127 else 126
        | .ok status =>
          if status == 255 then
            complain "xargs" (command.headD [] ++ ": exited with status 255; aborting".toList)
            return 124
          else if 128 < status then return 125
          else if status != 0 then result := 123
      return result

/-- Shows where programs are found. -/
def which : Body := fun args => do
  let all := args.contains ['-', 'a']
  let names := args.filter fun a => a.head? != some '-'
  let mut status := 0
  for name in names do
    match ← Act.programsNamed name with
    | [] => status := 1
    | first :: more =>
      Act.write 1 (first ++ ['\n'])
      if all then
        for path in more do Act.write 1 (path ++ ['\n'])
  return if names.isEmpty then 1 else status

end ScriptMatrix.Sandbox.Program
