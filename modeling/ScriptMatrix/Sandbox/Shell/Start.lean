import ScriptMatrix.Sandbox.Program
import ScriptMatrix.Sandbox.Shell.Builtin.Setting
import ScriptMatrix.Sandbox.Shell.Script

/-!
# `ScriptMatrix.Sandbox.Shell.Start`: starting programs

A program gets to know the variables that are meant for programs, its
arguments, the streams and the directory, and nothing else of what the
shell knows that starts it. A file that has been made a program is a
script for the program that its first line names.
-/

set_option autoImplicit false

namespace ScriptMatrix.Sandbox.Shell

/-- The variables that a shell brings along. -/
def initialVariables (d : Dialect) (parent : Nat) (directory : Location) : Frame :=
  let text := fun (name : String) (value : Chars) => (name.toList, Variable.ofText value)
  let constant := fun (name : String) (value : Chars) =>
    (name.toList, { Variable.ofText value with constant := true, integer := true })
  let common : Frame := [
    text "IFS" [' ', '\t', '\n'], text "OPTIND" ['1'], text "PS4" ['+', ' '],
    ("PWD".toList, { Variable.ofText (placeText directory) with exported := true })]
  match d with
  | .plain => common ++ [text "PPID" (digits parent), text "PS1" ['#', ' '], text "PS2" ['>', ' ']]
  | .extended => common ++ [
      constant "PPID" (digits parent), constant "UID" ['0'], constant "EUID" ['0'],
      text "BASH" "/usr/bin/bash".toList, text "BASH_VERSION" "5.2.21(1)-release".toList,
      ("BASH_VERSINFO".toList, {
        content := some (Content.ofList (["5", "2", "21", "1", "release",
          "x86_64-pc-linux-gnu"].map String.toList))
        constant := true }),
      text "HOSTNAME" "localhost".toList, text "HOSTTYPE" "x86_64".toList,
      text "MACHTYPE" "x86_64-pc-linux-gnu".toList, text "OSTYPE" "linux-gnu".toList,
      text "OPTERR" ['1'], text "TERM" "dumb".toList,
      text "PATH" "/usr/local/sbin:/usr/local/bin:/usr/sbin:/usr/bin:/sbin:/bin".toList,
      ("OLDPWD".toList, { exported := true })]

/-- A shell in front of its script. -/
def Process.fresh (d : Dialect) (name : Chars) (environment : List (Chars × Chars))
    (number parent : Nat) (streams : List (Nat × Nat)) (directory : Location) : Process :=
  let kept : Chars → Bool := fun n =>
    n == "IFS".toList || n == "PPID".toList || n == "UID".toList || n == "EUID".toList ||
      n == "OPTIND".toList
  let given : Frame := environment.filterMap fun (n, cs) =>
    if isName n && !kept n then some (n, { Variable.ofText cs with exported := true }) else none
  let depth := ((given.lookup "SHLVL".toList).bind Variable.value?).bind natural?
  let level : Frame := if d == .extended then
      [("SHLVL".toList, { Variable.ofText (digits (depth.getD 0 + 1)) with exported := true })]
    else []
  let frame := (given ++ level).foldl (fun f e =>
    if e.1 == "PWD".toList then f else f.put e.1 e.2) (initialVariables d parent directory)
  { dialect := d, name := name, scopes := [⟨frame, false⟩], number := number, parent := parent
    root := number, streams := streams, directory := directory
    options := if d == .extended then ["braceexpand", "hashall", "interactive-comments"] else []
    extras := if d == .extended then defaultExtras else [] }

/-- What the arguments of a shell ask for. -/
structure ShellRequest where
  isCommand : Bool := false
  fromInput : Bool := false
  arguments : List Chars := []

namespace Act

/-- Goes through the options of a shell, which are switched on or off. -/
def readRequest : Nat → ShellRequest → List Chars → Act (Except Nat ShellRequest)
  | 0, q, args => return .ok { q with arguments := args }
  | fuel + 1, q, args => do
    let extended ← isExtended
    let wrong := fun (option : Chars) => do
      complainFor [] (option ++ ": invalid option".toList)
      return .error 2
    match args with
    | ['-'] :: rest | ['-', '-'] :: rest => return .ok { q with arguments := rest }
    | ('-' :: '-' :: name) :: rest =>
      if !extended then wrong ("Illegal option --".toList)
      else if
          ["norc", "noprofile", "posix", "login", "noediting"].contains (String.ofList name) then
        readRequest fuel q rest
      else if name == "version".toList then
        write 1 "GNU bash, version 5.2.21(1)-release (x86_64-pc-linux-gnu)\n".toList
        return .error 0
      else wrong ('-' :: '-' :: name)
    | (sign :: c :: cs) :: rest =>
      if sign == '-' || sign == '+' then
        let on := sign == '-'
        let mut q := q
        let mut rest := rest
        for letter in c :: cs do
          if letter == 'c' then q := { q with isCommand := true }
          else if letter == 's' then q := { q with fromInput := true }
          else if letter == 'o' || (letter == 'O' && extended) then
            match rest with
            | name :: more =>
              let name := String.ofList name
              rest := more
              if letter == 'O' then
                alter fun p =>
                  let others := p.extras.filter (· != name)
                  { p with extras := if on then name :: others else others }
              else if (optionNames (← process).dialect).contains name then switch name on
              else return ← wrong (sign :: 'o' :: ' ' :: name.toList)
            | [] => showOptions (!on)
          else
            match optionLetters.lookup letter with
            | some name => switch name on
            | none =>
              if letter != 'i' && letter != 'l' && letter != 'r' then
                return ← wrong [sign, letter]
        readRequest fuel q rest
      else return .ok { q with arguments := args }
    | _ => return .ok { q with arguments := args }

/-- What a shell does that has been started with arguments. -/
def runRequest (k : Again) (q : ShellRequest) : Act Unit := do
  let extended ← isExtended
  if q.isCommand then
    match q.arguments with
    | [] =>
      complainFor [] (if extended then "-c: option requires an argument"
        else "-c requires an argument").toList
      throw (.exited 2)
    | text :: rest =>
      alter fun p => { p with
        command := true, name := rest.headD p.name, arguments := rest.drop 1 }
      runScript k.commands false text 1
  else
    match if q.fromInput then none else q.arguments.head? with
    | some path =>
      match ← Program.readPath path with
      | .ok text =>
        alter fun p => { p with name := path, arguments := q.arguments.drop 1 }
        runScript k.commands true text 1
      | .error reason =>
        let p ← process
        match p.dialect with
        | .extended =>
          let reason := if reason == "Is a directory" then "Is a directory" else reason
          write 2 (p.name ++ ": ".toList ++ path ++ ": ".toList ++ reason.toList ++ ['\n'])
          throw (.exited (if reason == "Is a directory" then 126 else 127))
        | .plain =>
          write 2 (p.name ++ ": 0: cannot open ".toList ++ path ++ ": ".toList ++
            (if reason == "No such file or directory" then "No such file" else reason).toList ++
            ['\n'])
          throw (.exited 2)
    | none =>
      alter fun p => { p with arguments := q.arguments }
      if extended then runInput k.commands
      else runScript k.commands true (← takeAll 0) 1

/-- How a program has ended. -/
inductive Ending where
  | exited (status : Nat)
  | killed (signal : Nat)
  deriving Repr, DecidableEq

/-- The status that the shell sees which has started the program. -/
def Ending.status : Ending → Nat
  | .exited n => n
  | .killed signal => 128 + signal

/-- Carries out a step as a process of its own: how it ends. -/
def inProcess (k : Again) (made : Process → Process) (step : Act Unit) : Act Ending := do
  let before ← process
  alter made
  let r ← attempt (do
    step
    receive k)
  let result ← ending k r
  let n := (← process).number
  alterSystem fun s => { s with signals := s.signals.filter (·.1 != n) }
  alter fun _ => before
  match result with
  | .ok status => return .exited (status % 256)
  | .error (.killed signal) => return .killed signal
  | .error h => throw h

/-- The shell that a process starts. -/
def freshFrom (d : Dialect) (name : Chars) (environment : List (Chars × Chars)) (n : Nat)
    (p : Process) : Process :=
  let ignored := p.traps.filter fun e => e.2.isEmpty && e.1 != "EXIT".toList
  { Process.fresh d name environment n p.number p.streams p.directory with
    traps := ignored, mask := p.mask }

/-- Starts a shell. -/
def runShell (k : Again) (d : Dialect) (name : Chars) (args : List Chars) : Act Ending := do
  let environment ← environment
  let n ← newNumber
  inProcess k (freshFrom d name environment n) do
    match ← readRequest (args.length + 1) {} args with
    | .error status => throw (.exited status)
    | .ok q => runRequest k q

/-- Starts a program that is no shell. -/
def runBody (k : Again) (b : Program.Body) (args : List Chars) : Act Ending := do
  let n ← newNumber
  inProcess k (fun p => { p with
      number := n, parent := p.number, traps := p.traps.filter fun e => e.2.isEmpty,
      trapsInherited := false }) do
    status (← b args)

/-- The program and its argument that the first line of a script names. -/
def interpreterOf? (text : Chars) : Option (Chars × List Chars) :=
  match text with
  | '#' :: '!' :: rest =>
    let line := (rest.takeWhile (· != '\n')).dropWhile isGap
    let trimmed := (line.reverse.dropWhile isGap).reverse
    let path := trimmed.takeWhile (!isGap ·)
    let argument := (trimmed.drop path.length).dropWhile isGap
    if path.isEmpty then none else some (path, if argument.isEmpty then [] else [argument])
  | _ => none

/-- Starts the program at a place: how it ends, or why it cannot be
started. -/
def launch (k : Again) : Nat → Chars → Chars → Location → List Chars → Act (Except String Ending)
  | 0, _, _, _, _ => return .error "Too many levels of symbolic links"
  | fuel + 1, name, path, place, args => do
    match programAt? place with
    | some (.shell d) => return .ok (← runShell k d name args)
    | some (.body b) => return .ok (← runBody k b args)
    | some (.starter b) => return .ok (← runBody k (b k.start) args)
    | none =>
      let text := ofBytes (← bytesAt place)
      match interpreterOf? text with
      | some (interpreter, more) =>
        match ← startable interpreter with
        | .error "No such file or directory" => return .error "required file not found"
        | .error reason => return .error reason
        | .ok place => launch k fuel interpreter interpreter place (more ++ path :: args)
      | none =>
        let d := (← process).dialect
        let environment ← environment
        let n ← newNumber
        return .ok (← inProcess k (freshFrom d path environment n) do
          alter fun p => { p with arguments := args }
          runScript k.commands true text 1)

/-- Starts a program by name or path: its status, or why it cannot be
started. -/
def start (k : Again) (words : List Chars) : Act (Except String Nat) := do
  match words with
  | [] => return .error "No such file or directory"
  | name :: args =>
    match ← findProgram name with
    | .error reason =>
      return .error (if reason == "Is a directory" then "Permission denied" else reason)
    | .ok (path, place) => return (← launch k 5 name path place args).map Ending.status

end Act

end ScriptMatrix.Sandbox.Shell
