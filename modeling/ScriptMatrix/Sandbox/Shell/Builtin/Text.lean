import ScriptMatrix.Sandbox.Shell.Builtin.Basic
import ScriptMatrix.Sandbox.Shell.Format

/-!
# `ScriptMatrix.Sandbox.Shell.Builtin.Text`: writing and reading text

Text is written as it is, or in a format. A line that is read is split
among variables: each gets one field, the last one all that is left.
-/

set_option autoImplicit false

namespace ScriptMatrix.Sandbox.Shell.Act

/-- Writes output for a command: its status. -/
def emit (command : Chars) (cs : Chars) : Act Nat := do
  match ← write? 1 cs with
  | none => return 0
  | some reason =>
    if ← isExtended then complainOf command ("write error: ".toList ++ reason.toList)
    else complainOf command "I/O error".toList
    return 1

/-- Shows arguments with blanks between them. -/
def echo (args : List Chars) : Act Nat := do
  match (← process).dialect with
  | .extended =>
    let isOption : Chars → Bool := fun
      | '-' :: c :: cs => (c :: cs).all fun d => d == 'n' || d == 'e' || d == 'E'
      | _ => false
    let options := args.takeWhile isOption
    let texts := args.drop options.length
    let letters := options.flatMap fun o => o.drop 1
    let reads := match (letters.filter (· != 'n')).getLast? with
      | some c => c == 'e'
      | none => false
    let reads ← if letters.any (· != 'n') then pure reads else hasExtra "xpg_echo"
    let ending : Chars := if letters.contains 'n' then [] else ['\n']
    let text := joinWith [' '] texts
    if reads then
      let (shown, stop) := unescapeArgument .echoed (text.length + 1) text
      emit "echo".toList (if stop then shown else shown ++ ending)
    else emit "echo".toList (text ++ ending)
  | .plain =>
    let silent := args.head? == some ['-', 'n']
    let text := joinWith [' '] (if silent then args.drop 1 else args)
    let (shown, stop) := unescapeArgument .plainArgument (text.length + 1) text
    emit "echo".toList (if silent || stop then shown else shown ++ ['\n'])

/-- Gives a variable a text for a command; a variable that keeps its value
is complained about. -/
def assignFor (command name cs : Chars) : Act Bool := do
  let front := name.takeWhile (· != '[')
  let index := if front.length < name.length then some ((name.drop (front.length + 1)).dropLast)
    else none
  if !isName front || (index.isSome && !(← isExtended)) then
    let _ ← complainName command name
    return false
  let v := (← lookup? front).getD {}
  if v.constant then
    if ← isExtended then complainConstant front
    else complainOf command (front ++ ": is read only".toList)
    return false
  match index with
  | some i => assignElement front i false cs
  | none => assignText front false cs
  return true

/-- Shows arguments in a format. -/
def printf (args : List Chars) : Act Nat := do
  let command := "printf".toList
  let d := (← process).dialect
  let options := if d == .extended then "v" else ""
  match Options.read "" options args with
  | .error e => complainOptions command e
  | .ok o =>
    match o.arguments with
    | [] =>
      let text := if d == .extended then "printf: usage: printf [-v var] format [arguments]"
        else "usage: printf format [arg ...]"
      if d == .extended then write 2 (text.toList ++ ['\n']) else complainOf command text.toList
      return 2
    | format :: given =>
      let now : Int := 1700000000 + (← system).now / 1000
      let f := formatText d now format given
      for c in f.complaints do
        complainOf command c
      let text := f.output.reverse.flatten
      match o.value? 'v' with
      | some name =>
        if ← assignFor command name text then return f.status else return 2
      | none =>
        let s ← emit command text
        return max s f.status

/-! ### Reading -/

/-- A character that has been read, and whether it was hidden behind a
backslash. -/
abbrev ReadChar := Char × Bool

/-- Reads a line up to a delimiter or a limit: the characters, and whether
the end of the line has been reached. A backslash hides the character
behind it, and joins lines. -/
def readLine (stream : Nat) (delimiter : Char) (raw exact : Bool) :
    Nat → Option Nat → Act (List ReadChar × Bool)
  | 0, _ => return ([], false)
  | fuel + 1, limit => do
    if limit == some 0 then return ([], true)
    let stops := fun (c : Char) => (!exact && c == delimiter) || (!raw && c == '\\')
    let (text, stop) ← takeUntil stream stops limit
    let front := (text.filter (· != '\x00')).map fun c => (c, false)
    let left := limit.map (· - text.length)
    match stop with
    | none => return (front, left == some 0)
    | some '\\' =>
      if raw then return (front, true)
      match (← takeUntil stream (fun _ => false) (some 1)).1 with
      | [] => return (front, false)
      | c :: _ =>
        let (hidden, used) : List ReadChar × Nat := if c == '\n' then ([], 0) else ([(c, true)], 1)
        let (more, done) ← readLine stream delimiter raw exact fuel (left.map (· - used))
        return (front ++ hidden ++ more, done)
    | some _ => return (front, true)

/-- A field at the front of what has been read, and what is behind it and
the separators that end it. -/
def takeField (separators : Separators) (cs : List ReadChar) : List ReadChar × List ReadChar :=
  let isBlank := fun (c : ReadChar) => !c.2 && separators.blanks.contains c.1
  let isOther := fun (c : ReadChar) => !c.2 && separators.others.contains c.1
  let field := cs.takeWhile fun c => !isBlank c && !isOther c
  let rest := (cs.drop field.length).dropWhile isBlank
  match rest with
  | c :: more => if isOther c then (field, more.dropWhile isBlank) else (field, rest)
  | [] => (field, [])

/-- The texts for so many names. The last one gets all that is left, but if
that is a single field it gets the field alone. -/
def textsFor (separators : Separators) : Nat → List ReadChar → List Chars
  | 0, _ => []
  | 1, cs =>
    let isBlank := fun (c : ReadChar) => !c.2 && separators.blanks.contains c.1
    let (field, rest) := takeField separators cs
    let kept := if rest.isEmpty then field else (cs.reverse.dropWhile isBlank).reverse
    [kept.map (·.1)]
  | n + 2, cs =>
    let (field, rest) := takeField separators cs
    field.map (·.1) :: textsFor separators (n + 1) rest

/-- All fields of what has been read. -/
def allFields (separators : Separators) : Nat → List ReadChar → List Chars
  | 0, _ => []
  | fuel + 1, cs =>
    if cs.isEmpty then []
    else
      let (field, rest) := takeField separators cs
      field.map (·.1) :: allFields separators fuel rest

/-- Reads a line into variables. -/
def read (args : List Chars) : Act Nat := do
  let command := "read".toList
  let extended ← isExtended
  match Options.read (if extended then "ers" else "r") (if extended then "adinNptu" else "p")
      args with
  | .error e => complainOptions command e
  | .ok o =>
    let names := o.arguments
    if names.isEmpty && !extended then
      complainOf command "arg count".toList
      return 2
    let stream := ((o.value? 'u').bind natural?).getD 0
    if !(← canRead stream) then
      complainOf command (digits stream ++ ": invalid file descriptor: Bad file descriptor".toList)
      return 1
    let delimiter := match o.value? 'd' with
      | some cs => cs.head?.getD '\x00'
      | none => '\n'
    let exact := o.has 'N'
    let count ← match (o.value? 'N').orElse fun _ => o.value? 'n' with
      | none => pure none
      | some cs =>
        match natural? cs with
        | some n => pure (some n)
        | none =>
          complainOf command (cs ++ ": invalid number".toList)
          return 1
    if (o.value? 't').any (· == ['0']) then return 1
    let fuel := 100000
    let (line, done) ← readLine stream delimiter (o.has 'r') exact fuel count
    let separators := Separators.ofChars (← separatorText)
    let isBlank := fun (c : ReadChar) => !c.2 && separators.blanks.contains c.1
    let status := if done then 0 else 1
    match o.value? 'a' with
    | some name =>
      let fields := allFields separators (line.length + 1) (line.dropWhile isBlank)
      assignElements name false false (fields.map fun cs => (none, cs))
      return status
    | none =>
      if names.isEmpty then
        assignText "REPLY".toList false (line.map (·.1))
        return status
      if exact then
        let mut isFirst := true
        let mut good := true
        for name in names do
          good := good && (← assignFor command name (if isFirst then line.map (·.1) else []))
          isFirst := false
        return if good then status else 1
      let texts := textsFor separators names.length (line.dropWhile isBlank)
      for (name, cs) in names.zip texts do
        if !(← assignFor command name cs) then return ← failing 1 2
      return status

/-- Reads lines into an array. -/
def mapfile (args : List Chars) : Act Nat := do
  let command := "mapfile".toList
  match Options.read "t" "dnOsucC" args with
  | .error e => complainOptions command e
  | .ok o =>
    let delimiter := match o.value? 'd' with
      | some cs => cs.head?.getD '\x00'
      | none => '\n'
    for (c, what) in [('u', "invalid file descriptor specification"), ('n', "invalid line count"),
        ('s', "invalid line count"), ('O', "invalid array origin"),
        ('c', "invalid callback quantum")] do
      match o.value? c with
      | some cs =>
        if (natural? cs).isNone then
          complainOf command (cs ++ ": ".toList ++ what.toList)
          return 1
      | none => pure ()
    let name := o.arguments.headD "MAPFILE".toList
    if !isName name then return ← complainName command name
    let number := fun (c : Char) => ((o.value? c).bind natural?).getD 0
    if !(← canRead (number 'u')) then
      complainOf command (digits (number 'u') ++
        ": invalid file descriptor: Bad file descriptor".toList)
      return 1
    let stream := number 'u'
    let text ← takeAll stream
    let pieces := splitOn delimiter text
    let ended := pieces.dropLast.map fun p => if o.has 't' then p else p ++ [delimiter]
    let last := pieces.getLastD []
    let lines := if last.isEmpty then ended else ended ++ [last]
    let lines := lines.drop (number 's')
    let lines := if number 'n' == 0 then lines else lines.take (number 'n')
    let origin := number 'O'
    if (o.value? 'O').isSome then
      for (i, cs) in (List.range lines.length).zip lines do
        assignElement name (digits (origin + i)) false cs
    else assignElements name false false (lines.map fun cs => (none, cs))
    return 0

end ScriptMatrix.Sandbox.Shell.Act
