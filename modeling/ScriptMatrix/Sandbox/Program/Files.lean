import ScriptMatrix.Sandbox.Program.Search

/-!
# `ScriptMatrix.Sandbox.Program.Files`: programs that work on files

Files and directories are listed, made, copied, moved and removed.
-/

set_option autoImplicit false

namespace ScriptMatrix.Sandbox.Program

open Sandbox.Shell

/-- Complains about a path with the reason. -/
def complainPath (name : String) (doing : String) (path : Chars) (reason : String) : Act Unit :=
  complain name (doing.toList ++ quoted path ++ ": ".toList ++ reason.toList)

/-- What is at a path and where, or why nothing is. -/
def lookAt (path : Chars) : Act (Except String (Location × Entry)) := do
  let t ← Act.tree
  match t.walk (pathOf path) with
  | .error fault => return .error (reasonOf fault)
  | .ok place =>
    match t.get? place with
    | some e => return .ok (place, e)
    | none => return .error "No such file or directory"

/-- The last name of a path, without slashes at its end. -/
def lastName (path : Chars) : Chars :=
  let trimmed := (path.reverse.dropWhile (· == '/')).reverse
  if trimmed.isEmpty && !path.isEmpty then ['/']
  else (trimmed.reverse.takeWhile (· != '/')).reverse

/-- A path inside of a directory. -/
def inside (dir name : Chars) : Chars :=
  if dir.getLast? == some '/' then dir ++ name else dir ++ ['/'] ++ name

/-- All that is at a place and below it. -/
def subtree (t : Tree) (place : Location) : List (Location × Entry) :=
  t.entries.filter fun e => place.isPrefixOf e.1

/-- Shows the names in directories. -/
def ls : Body := fun args => do
  let args := shorten [("all", 'a'), ("almost-all", 'A'), ("directory", 'd'), ("reverse", 'r'),
    ("recursive", 'R'), ("classify", 'F')] args
  match Options.readAnywhere "1aAdrRFpltSshiCxfgoknqmGHLUX" "" (args.filter fun a =>
      !"--color".toList.isPrefixOf a) with
  | .error t => complainOptions "ls" 2 t
  | .ok o =>
    let paths := if o.arguments.isEmpty then [['.']] else o.arguments
    let order := fun (names : List Chars) =>
      let sorted := inOrder names
      if o.has 'r' then sorted.reverse else sorted
    let mark := fun (e : Entry) =>
      (if (o.has 'F' || o.has 'p') && e == .directory then ['/'] else [] : Chars)
    let mut status := 0
    let mut files : List Chars := []
    let mut dirs : List (Chars × Location) := []
    for path in order paths do
      match ← lookAt path with
      | .error reason =>
        complainPath "ls" "cannot access " path reason
        status := 2
      | .ok (place, .directory) =>
        if o.has 'd' then files := files ++ [path] else dirs := dirs ++ [(path, place)]
      | .ok _ => files := files ++ [path]
    for f in files do Act.write 1 (f ++ ['\n'])
    let t ← Act.tree
    let all := if o.has 'R' then
        dirs.flatMap fun (path, place) =>
          (path, place) :: ((subtree t place).filterMap fun e =>
            if e.2 == .directory && e.1 != place then
              some (inside path (joinWith ['/'] ((e.1.drop place.length).map ofText)), e.1)
            else none)
      else dirs
    let titled := 1 < paths.length || o.has 'R'
    let mut isFirst := files.isEmpty
    for (path, place) in all do
      if titled then
        Act.write 1 ((if isFirst then [] else ['\n']) ++ path ++ [':', '\n'])
      isFirst := false
      let names := (namesIn t place).map ofText
      let shown := names.filter fun n => o.has 'a' || o.has 'A' || n.head? != some '.'
      let own : List Chars := if o.has 'a' then [['.'], ['.', '.']] else []
      for n in order (own ++ shown) do
        let e := (t.get? (place ++ [textOf n])).getD .directory
        Act.write 1 (n ++ mark e ++ ['\n'])
    return status

/-- Makes directories. -/
def mkdir : Body := fun args => do
  match Options.readAnywhere "pv" "m" (shorten [("parents", 'p'), ("verbose", 'v')] args) with
  | .error t => complainOptions "mkdir" 1 t
  | .ok o =>
    if o.arguments.isEmpty then
      complain "mkdir" "missing operand".toList
      return 1
    let mut status := 0
    for path in o.arguments do
      let t ← Act.tree
      match if o.has 'p' then t.makeDirectories (pathOf path)
        else t.makeDirectory (pathOf path) with
      | .ok t' =>
        Act.setTree t'
        if o.has 'v' then Act.write 1 ("mkdir: created directory ".toList ++ quoted path ++ ['\n'])
      | .error fault =>
        complainPath "mkdir" "cannot create directory " path (reasonOf fault)
        status := 1
    return status

/-- Removes a directory that is empty: the reason, if that is not
possible. -/
def removeDirectory (path : Chars) : Act (Option String) := do
  match ← lookAt path with
  | .error reason => return some reason
  | .ok (place, .directory) =>
    let t ← Act.tree
    if 1 < (subtree t place).length then return some "Directory not empty"
    if lastName path == ['.'] then return some "Invalid argument"
    Act.setTree (t.erase place)
    return none
  | .ok _ => return some "Not a directory"

/-- Removes empty directories. -/
def rmdir : Body := fun args => do
  match Options.readAnywhere "pv" "" args with
  | .error t => complainOptions "rmdir" 1 t
  | .ok o =>
    let mut status := 0
    for path in o.arguments do
      match ← removeDirectory path with
      | some reason =>
        complainPath "rmdir" "failed to remove " path reason
        status := 1
      | none =>
        if o.has 'p' then
          let parts := splitOn '/' path
          for i in (List.range parts.length).reverse.drop 1 do
            let above := joinWith ['/'] (parts.take (i + 1))
            if !above.isEmpty && status == 0 then
              match ← removeDirectory above with
              | some reason =>
                complainPath "rmdir" "failed to remove " above reason
                status := 1
              | none => pure ()
    return status

/-- Removes files. -/
def rm : Body := fun args => do
  let args := shorten [("recursive", 'r'), ("force", 'f'), ("dir", 'd'), ("verbose", 'v')] args
  match Options.readAnywhere "rRfdviI" "" args with
  | .error t => complainOptions "rm" 1 t
  | .ok o =>
    if o.arguments.isEmpty then
      if o.has 'f' then return 0
      complain "rm" "missing operand".toList
      return 1
    let mut status := 0
    for path in o.arguments do
      match ← lookAt path with
      | .error reason =>
        if !(o.has 'f' &&
            (reason == "No such file or directory" || reason == "Not a directory")) then
          complainPath "rm" "cannot remove " path reason
          status := 1
      | .ok (place, e) =>
        let t ← Act.tree
        let name := lastName path
        if e == .directory && (name == ['.'] || name == ['.', '.']) then
          complain "rm" "refusing to remove '.' or '..' directory".toList
          status := 1
        else if e == .directory && !(o.has 'r' || o.has 'R') then
          if o.has 'd' && (subtree t place).length ≤ 1 then Act.setTree (t.erase place)
          else
            complainPath "rm" "cannot remove " path "Is a directory"
            status := 1
        else
          Act.setTree { t with entries := t.entries.filter fun e => !place.isPrefixOf e.1 }
          if o.has 'v' then Act.write 1 ("removed ".toList ++ quoted path ++ ['\n'])
    return status

/-- Makes files that are not there. -/
def touch : Body := fun args => do
  match Options.readAnywhere "acmhf" "dtr" args with
  | .error t => complainOptions "touch" 1 t
  | .ok o =>
    if o.arguments.isEmpty then
      complain "touch" "missing file operand".toList
      return 1
    let mut status := 0
    for path in o.arguments do
      match ← lookAt path with
      | .ok _ => pure ()
      | .error reason =>
        if !o.has 'c' then
          match ← Act.openPath path { writes := true, appends := true } with
          | .ok _ => pure ()
          | .error reason' =>
            let reason := if path.getLast? == some '/' then reason else reason'
            complainPath "touch" "cannot touch " path reason
            status := 1
    return status

/-- Puts a file or directory from one place to another path, also with all
that is in it: the reason, if that is not possible. -/
def place (entries : List (Location × Entry)) (from' : Location) (goal : Chars) :
    Act (Option String) := do
  let t ← Act.tree
  match t.walk (pathOf goal), t.target (pathOf goal) with
  | .ok found, _ => put found
  | .error _, .ok (new, _) => put new
  | .error _, .error fault => return some (reasonOf fault)
where
  /-- Puts everything below a place. -/
  put (new : Location) : Act (Option String) := do
    let t ← Act.tree
    let moved := entries.map fun e => (new ++ e.1.drop from'.length, e.2)
    Act.setTree (moved.foldl (fun t e =>
      match e.2, t.get? e.1 with
      | .directory, some .directory => t
      | entry, _ => t.put e.1 entry) t)
    return none

/-- Where something is put: into a directory under its own name, or under
the given one. -/
def targetFor (source target : Chars) : Act Chars := do
  match ← lookAt target with
  | .ok (_, .directory) => return inside target (lastName source)
  | _ => return target

/-- Copies or moves files. -/
def transfer (name : String) (moves : Bool) : Body := fun args => do
  let args := shorten [("recursive", 'r'), ("force", 'f'), ("no-clobber", 'n'), ("verbose", 'v'),
    ("target-directory", 't')] args
  match Options.readAnywhere "rRafpnviudTL" "t" args with
  | .error t => complainOptions name 1 t
  | .ok o =>
    let (sources, target) := match o.value? 't' with
      | some dir => (o.arguments, some dir)
      | none => (o.arguments.dropLast, o.arguments.getLast?)
    match target, sources with
    | none, _ =>
      complain name "missing file operand".toList
      return 1
    | some target, [] =>
      complain name ("missing destination file operand after ".toList ++ quoted target)
      return 1
    | some target, _ =>
      let isDir := match ← lookAt target with
        | .ok (_, .directory) => true
        | _ => false
      if 1 < sources.length && !isDir then
        complain name ("target ".toList ++ quoted target ++ ": Not a directory".toList)
        return 1
      let mut status := 0
      for source in sources do
        let final ← targetFor source target
        match ← lookAt source with
        | .error reason =>
          complainPath name "cannot stat " source reason
          status := 1
        | .ok (from', e) =>
          let there ← lookAt final
          let isSame := match there with
            | .ok (there, _) => there == from'
            | .error _ => false
          let overDirectory := match there with
            | .ok (_, .directory) => e != Entry.directory
            | .ok _ => e == Entry.directory
            | .error _ => false
          if !moves && e == Entry.directory && !(o.has 'r' || o.has 'R' || o.has 'a') then
            complain name ("-r not specified; omitting directory ".toList ++ quoted source)
            status := 1
          else if isSame then
            complain name
              (quoted source ++ " and ".toList ++ quoted final ++ " are the same file".toList)
            status := 1
          else if overDirectory then
            let text := if e == Entry.directory then "cannot overwrite non-directory "
              else "cannot overwrite directory "
            complain name (text.toList ++ quoted final)
            status := 1
          else if o.has 'n' && (match there with
              | .ok _ => true
              | .error _ => false) then pure ()
          else
            let t ← Act.tree
            match ← place (subtree t from') from' final with
            | some reason =>
              complainPath name (if moves then "cannot move " else "cannot create regular file ")
                (if moves then source else final) reason
              status := 1
            | none =>
              if moves then
                let t ← Act.tree
                Act.setTree { t with entries := t.entries.filter fun e => !from'.isPrefixOf e.1 }
              if o.has 'v' then
                let text := if moves then "renamed ".toList else []
                Act.write 1 (text ++ quoted source ++ " -> ".toList ++ quoted final ++ ['\n'])
      return status

/-- Makes files programs, or takes that away. -/
def chmod : Body := fun args => do
  match args.filter fun a => a != ['-', 'R'] && a != ['-', 'f'] && a != ['-', 'v'] with
  | mode :: paths =>
    let isNumber := mode.all isDigit
    let on := if isNumber then (numberIn 8 mode) / 64 % 2 == 1
      else mode.contains '+' && mode.contains 'x' || (mode.contains '=' && mode.contains 'x')
    let off := if isNumber then !on else mode.contains '-' && mode.contains 'x'
    let mut status := 0
    for path in paths do
      match ← lookAt path with
      | .error reason =>
        complainPath "chmod" "cannot access " path reason
        status := 1
      | .ok (place, _) =>
        Act.alterSystem fun s =>
          let others := s.executables.filter (· != place)
          { s with
            executables := if on then place :: others else if off then others else s.executables }
    return status
  | [] =>
    complain "chmod" "missing operand".toList
    return 1

/-- Makes a file or directory with a name of its own. -/
def mktemp : Body := fun args => do
  match Options.readAnywhere "dqtu" "p" (shorten [("directory", 'd')] args) with
  | .error t => complainOptions "mktemp" 1 t
  | .ok o =>
    let n := (← Act.system).scratches
    Act.alterSystem fun s => { s with scratches := n + 1 }
    let ending := digits n
    let template := o.arguments.headD "/tmp/tmp.XXXXXXXXXX".toList
    let template := match o.value? 'p' with
      | some dir => inside dir (lastName template)
      | none => if o.has 't' then inside "/tmp".toList template else template
    let blanks := (template.reverse.takeWhile (· == 'X')).length
    if blanks < 3 then
      complain "mktemp" ("too few X's in template ".toList ++ quoted template)
      return 1
    let name := template.take (template.length - blanks) ++
      List.replicate (blanks - ending.length) 'a' ++ ending
    let t ← Act.tree
    match if o.has 'd' then t.makeDirectory (pathOf name) else t.write (pathOf name) [] with
    | .error fault =>
      complainPath "mktemp" "failed to create file via template " template (reasonOf fault)
      return 1
    | .ok t' =>
      Act.setTree t'
      Act.write 1 (name ++ ['\n'])
      return 0

/-- What is asked about files that are found. -/
inductive FindTest where
  | name (fold : Bool) (p : Chars)
  | kind (c : Char)
  | empty
  | depth (least : Bool) (n : Nat)
  | negated

/-- Reads the questions about files; none if one is not known. -/
def readFindTests : List Chars → Option (List FindTest)
  | [] => some []
  | a :: rest =>
    match String.ofList a, rest with
    | "-name", p :: more => (readFindTests more).map (.name false p :: ·)
    | "-iname", p :: more => (readFindTests more).map (.name true p :: ·)
    | "-type", (c :: _) :: more => (readFindTests more).map (.kind c :: ·)
    | "-maxdepth", n :: more => (readFindTests more).map (.depth false (numberIn 10 n) :: ·)
    | "-mindepth", n :: more => (readFindTests more).map (.depth true (numberIn 10 n) :: ·)
    | "-empty", more => (readFindTests more).map (.empty :: ·)
    | "-print", more => readFindTests more
    | "!", more | "-not", more => (readFindTests more).map (.negated :: ·)
    | _, _ => none

/-- Whether a file passes the questions. -/
def passesFind (t : Tree) (place : Location) (e : Entry) (name : Chars) (depth : Nat) :
    List FindTest → Bool
  | [] => true
  | .negated :: test :: rest =>
    !passesFind t place e name depth [test] && passesFind t place e name depth rest
  | test :: rest =>
    (match test with
    | .name fold p => Glob.fits fold (Glob.ofChars false (p.map fun c => (c, false))) name
    | .kind c => (c == 'd' && e == .directory) || (c == 'f' && match e with
      | .file _ => true
      | _ => false)
    | .empty => match e with
      | .file b => b.isEmpty
      | .directory => (subtree t place).length ≤ 1
      | .void => true
    | .depth true n => n ≤ depth
    | .depth false n => depth ≤ n
    | .negated => true) && passesFind t place e name depth rest

/-- Shows the paths of files below directories. -/
def find : Body := fun args => do
  let isPath := fun (a : Chars) => a.head? != some '-' && a != ['!'] && a != ['(']
  let paths := args.takeWhile isPath
  match readFindTests (args.drop paths.length) with
  | none =>
    complain "find" "unknown predicate".toList
    return 1
  | some tests =>
    let mut status := 0
    for path in if paths.isEmpty then [['.']] else paths do
      match ← lookAt path with
      | .error reason =>
        complain "find" (quoted path ++ ": ".toList ++ reason.toList)
        status := 1
      | .ok (place, e) =>
        let t ← Act.tree
        let below := (subtree t place).filter (·.1 != place)
        let all := (path, place, e) :: below.map fun x =>
          (inside path (joinWith ['/'] ((x.1.drop place.length).map ofText)), x.1, x.2)
        for (shown, there, e) in all do
          if passesFind t there e (lastName shown) (there.length - place.length) tests then
            Act.write 1 (shown ++ ['\n'])
    return status

end ScriptMatrix.Sandbox.Program
