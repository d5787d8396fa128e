import ScriptMatrix.Sandbox.Expression
import ScriptMatrix.Sandbox.Program.Lines

/-!
# `ScriptMatrix.Sandbox.Program.Edit`: editing a stream of lines

An edit is a list of commands that is gone through for every line. Each
command may say for which lines it is meant: by number, by what they
match, or from one line to another.
-/

set_option autoImplicit false

namespace ScriptMatrix.Sandbox.Program

open Sandbox.Shell

/-- A line that a command is meant for. -/
inductive EditAddress where
  | line (n : Nat)
  | last
  | matching (e : Option Expression) (fold : Bool)
  /-- Every line so far from another. -/
  | every (first step : Nat)
  /-- So many lines behind the first one. -/
  | plus (n : Nat)

/-- A part of the text that comes in for a match. -/
inductive EditPart where
  | char (c : Char)
  | group (n : Nat)
  /-- From here on letters are changed: all, or the next one. -/
  | letters (change : Option (Char → Char)) (next : Bool)

/-- What a command does. -/
inductive EditAction where
  | substitute (e : Option Expression) (fold : Bool) (new : List EditPart) (everywhere : Bool)
      (nth : Nat) (prints : Bool) (file : Option Chars)
  | exchange (from' images : Chars)
  | text (kind : Char) (cs : Chars)
  | plain (c : Char)
  | label (name : Chars)
  | jump (kind : Char) (name : Chars)
  | quit (kind : Char) (status : Nat)
  | readFile (path : Chars)
  | writeFile (path : Chars)
  | opening (skipTo : Nat)
  | closing

/-- A command of an edit. -/
structure EditCommand where
  first : Option EditAddress
  second : Option EditAddress
  negated : Bool
  action : EditAction

/-- The text up to a delimiter, with the backslash removed that hides it. -/
def upToDelimiter (delimiter : Char) (isPattern : Bool) :
    Nat → Bool → Chars → Option (Chars × Chars)
  | 0, _, _ => none
  | fuel + 1, inSet, cs =>
    match cs with
    | [] => none
    | '\\' :: c :: rest =>
      let new : Chars := if c == delimiter && !inSet then [c]
        else if isPattern && c == 'n' then ['\n'] else ['\\', c]
      (upToDelimiter delimiter isPattern fuel inSet rest).map fun (t, after) => (new ++ t, after)
    | c :: rest =>
      if c == delimiter && !inSet then some ([], rest)
      else
        let inSet :=
          if isPattern then (if c == '[' then true else if c == ']' then false else inSet)
          else false
        (upToDelimiter delimiter isPattern fuel inSet rest).map fun (t, after) => (c :: t, after)

/-- Reads the text that comes in for a match. -/
def readParts : Nat → Chars → List EditPart
  | 0, _ => []
  | _, [] => []
  | fuel + 1, '\\' :: c :: rest =>
    let one : EditPart :=
      if isDigit c then .group (c.toNat - 48)
      else if c == 'n' then .char '\n'
      else if c == 't' then .char '\t'
      else if c == 'U' then .letters (some toUpper) false
      else if c == 'L' then .letters (some toLower) false
      else if c == 'u' then .letters (some toUpper) true
      else if c == 'l' then .letters (some toLower) true
      else if c == 'E' then .letters none false
      else .char c
    one :: readParts fuel rest
  | fuel + 1, '&' :: rest => .group 0 :: readParts fuel rest
  | fuel + 1, c :: rest => .char c :: readParts fuel rest

/-- Reads an expression; an empty one stands for the one before. -/
def readEditPattern? (s : Expression.Spelling) (cs : Chars) : Option (Option Expression) :=
  if cs.isEmpty then some none
  else (Expression.read? s (cs.map fun c => (c, false))).map fun e => some e.1

/-- Reads an address, if there is one. -/
def readAddress? (s : Expression.Spelling) (cs : Chars) : Option (Option EditAddress × Chars) :=
  match cs with
  | '$' :: rest => some (some .last, rest)
  | '/' :: rest => do
    let (text, after) ← upToDelimiter '/' true (rest.length + 1) false rest
    let e ← readEditPattern? s text
    match after with
    | 'I' :: more => return (some (.matching e true), more)
    | _ => return (some (.matching e false), after)
  | '\\' :: d :: rest => do
    let (text, after) ← upToDelimiter d true (rest.length + 1) false rest
    let e ← readEditPattern? s text
    return (some (.matching e false), after)
  | '+' :: rest =>
    let ds := rest.takeWhile isDigit
    some (some (.plus (numberIn 10 ds)), rest.drop ds.length)
  | c :: _ =>
    if isDigit c then
      let ds := cs.takeWhile isDigit
      match cs.drop ds.length with
      | '~' :: more =>
        let step := more.takeWhile isDigit
        some (some (.every (numberIn 10 ds) (numberIn 10 step)), more.drop step.length)
      | after => some (some (.line (numberIn 10 ds)), after)
    else some (none, cs)
  | [] => some (none, [])

/-- The text of a command that adds lines, and the rest. -/
def readAdded (cs : Chars) : Chars × Chars :=
  let cs := cs.dropWhile isGap
  let cs := match cs with
    | '\\' :: rest =>
      match rest.dropWhile isGap with
      | '\n' :: more => more
      | other => other
    | other => other
  let rec go : Nat → Chars → Chars × Chars
    | 0, cs => (cs, [])
    | fuel + 1, cs =>
      match cs with
      | [] => ([], [])
      | '\\' :: c :: rest =>
        let (t, after) := go fuel rest
        (c :: t, after)
      | '\n' :: rest => ([], rest)
      | c :: rest =>
        let (t, after) := go fuel rest
        (c :: t, after)
  go (cs.length + 1) cs

/-- Reads what a command does. -/
def readAction? (s : Expression.Spelling) (cs : Chars) : Option (EditAction × Chars) :=
  let word := fun (cs : Chars) =>
    let cs := cs.dropWhile isGap
    let name := cs.takeWhile fun c => c != '\n' && c != ';' && c != '\x7d'
    ((name.reverse.dropWhile isGap).reverse, cs.drop name.length)
  let line := fun (cs : Chars) =>
    let cs := cs.dropWhile isGap
    (cs.takeWhile (· != '\n'), cs.dropWhile (· != '\n'))
  match cs with
  | 's' :: d :: rest => do
    let (pattern, rest) ← upToDelimiter d true (rest.length + 1) false rest
    let (new, rest) ← upToDelimiter d false (rest.length + 1) false rest
    let e ← readEditPattern? s pattern
    let flags := rest.takeWhile fun c => isDigit c || ['g', 'p', 'i', 'I', 'm', 'M', 'e'].contains c
    let rest := rest.drop flags.length
    let nth := numberIn 10 (flags.filter isDigit)
    let (file, rest) := match rest with
      | 'w' :: more => (some (line more).1, (line more).2)
      | _ => (none, rest)
    let fold := flags.contains 'i' || flags.contains 'I'
    return (.substitute e fold (readParts (new.length + 1) new) (flags.contains 'g') (max 1 nth)
      (flags.contains 'p') file, rest)
  | 'y' :: d :: rest => do
    let (from', rest) ← upToDelimiter d false (rest.length + 1) false rest
    let (images, rest) ← upToDelimiter d false (rest.length + 1) false rest
    let plain := fun (cs : Chars) => unescapeDollar (cs.length + 1) cs
    if (plain from').length != (plain images).length then none
    else return (.exchange (plain from') (plain images), rest)
  | c :: rest =>
    if c == 'a' || c == 'i' || c == 'c' then
      let (text, after) := readAdded rest
      some (.text c text, after)
    else if c == ':' then some (.label (word rest).1, (word rest).2)
    else if c == 'b' || c == 't' || c == 'T' then some (.jump c (word rest).1, (word rest).2)
    else if c == 'q' || c == 'Q' then
      let cs := rest.dropWhile isGap
      let ds := cs.takeWhile isDigit
      some (.quit c (numberIn 10 ds), cs.drop ds.length)
    else if c == 'r' then some (.readFile (line rest).1, (line rest).2)
    else if c == 'w' then some (.writeFile (line rest).1, (line rest).2)
    else if c == '\x7b' then some (.opening 0, rest)
    else if c == '\x7d' then some (.closing, rest)
    else if ['d', 'D', 'p', 'P', 'n', 'N', 'g', 'G', 'h', 'H', 'x', '=', 'l', 'z'].contains c then
      some (.plain c, rest)
    else none
  | [] => none

/-- Reads the commands of an edit. -/
def readEdit? (s : Expression.Spelling) : Nat → Chars → Option (List EditCommand)
  | 0, _ => none
  | fuel + 1, cs =>
    let cs := cs.dropWhile fun c => isSpace c || c == ';'
    match cs with
    | [] => some []
    | '#' :: rest => readEdit? s fuel (rest.dropWhile (· != '\n'))
    | _ => do
      let (first, rest) ← readAddress? s cs
      let rest := rest.dropWhile isGap
      let (second, rest) ← match first, rest with
        | some _, ',' :: more => do
          let (a, after) ← readAddress? s (more.dropWhile isGap)
          if a.isNone then none else pure (a, after)
        | _, _ => some (none, rest)
      let rest := rest.dropWhile isGap
      let (negated, rest) := match rest with
        | '!' :: more => (true, more.dropWhile isGap)
        | _ => (false, rest)
      let (action, rest) ← readAction? s rest
      let needsEnd := match action with
        | .text .. | .opening _ => false
        | _ => true
      let rest := rest.dropWhile isGap
      if needsEnd && !rest.isEmpty && !(rest.head?.any fun c =>
          c == ';' || c == '\n' || c == '\x7d' || c == '#') then none
      else
        let more ← readEdit? s fuel rest
        return ⟨first, second, negated, action⟩ :: more

/-- How many commands stand before the one that closes what is open. -/
def closingAt : Nat → List EditCommand → Nat
  | _, [] => 0
  | depth, c :: cs =>
    match c.action with
    | .opening _ => 1 + closingAt (depth + 1) cs
    | .closing => match depth with
      | 0 => 0
      | d + 1 => 1 + closingAt d cs
    | _ => 1 + closingAt depth cs

/-- The state of an edit. -/
structure Editing where
  pattern : Chars
  hold : Chars := []
  /-- Lines that are still to come, and the number of the current one. -/
  rest : List Chars
  number : Nat := 0
  /-- Which ranges have begun, and where they end at the latest. -/
  ranges : List (Nat × Option Nat) := []
  output : List Chars := []
  /-- What comes behind the current line. -/
  later : List Chars := []
  swapped : Bool := false
  lastPattern : Option Expression := none
  files : List (Chars × Chars) := []

/-- How a round of an edit ends. -/
inductive EditEnd where
  /-- The line is shown. -/
  | normal
  /-- It is not. -/
  | silent
  /-- The commands begin again without another line. -/
  | again
  | quit (shows : Bool) (status : Nat)

/-- Whether an address is that of the current line. -/
def Editing.isAt (e : Editing) : EditAddress → Bool
  | .line n => e.number == n
  | .last => e.rest.isEmpty
  | .matching p fold =>
    match p.orElse fun _ => e.lastPattern with
    | some p => (Expression.find? fold p e.pattern 0).isSome
    | none => false
  | .every first step =>
    if step == 0 then e.number == first
    else first ≤ e.number && (e.number - first) % step == 0
  | .plus _ => false

/-- Whether a command is meant for the current line; the number of the
command tells its range from others. -/
def Editing.chooses (e : Editing) (index : Nat) (c : EditCommand) : Bool × Editing :=
  let (hit, e) := match c.first, c.second with
    | none, _ => (true, e)
    | some a, none => (e.isAt a, e)
    | some a, some b =>
      match e.ranges.lookup index with
      | some until_ =>
        let others := e.ranges.filter (·.1 != index)
        let ends : Bool := match until_, b with
          | some n, _ => decide (n ≤ e.number)
          | none, b => e.isAt b
        let past : Bool := match until_ with
          | some n => decide (n < e.number)
          | none => false
        if past then
          if e.isAt a then (true, { e with ranges := others })
          else (false, { e with ranges := others })
        else (true, if ends then { e with ranges := others } else e)
      | none =>
        if e.isAt a then
          match b with
          | .line n => if n ≤ e.number then (true, e)
            else (true, { e with ranges := (index, some n) :: e.ranges })
          | .plus n => if n == 0 then (true, e)
            else (true, { e with ranges := (index, some (e.number + n)) :: e.ranges })
          | .last => if e.rest.isEmpty then (true, e)
            else (true, { e with ranges := (index, none) :: e.ranges })
          | _ => (true, { e with ranges := (index, none) :: e.ranges })
        else (false, e)
  (hit != c.negated, e)

/-- The text that comes in for a match. -/
def fillParts (line : Chars) (start stop : Nat) (groups : Expression.Groups)
    (parts : List EditPart) : Chars :=
  let text := fun (n : Nat) =>
    if n == 0 then (line.drop start).take (stop - start)
    else match groups.lookup n with
      | some (a, b) => (line.drop a).take (b - a)
      | none => []
  let step := fun (acc : Chars × Option (Char → Char) × Option (Char → Char)) (p : EditPart) =>
    let (done, all, next) := acc
    let add := fun (cs : Chars) =>
      let shaped := match all with
        | some f => cs.map f
        | none => cs
      match next, shaped with
      | some f, c :: rest => (done ++ f c :: rest, all, none)
      | _, _ => (done ++ shaped, all, next)
    match p with
    | .char c => add [c]
    | .group n => add (text n)
    | .letters change true => (done, all, change)
    | .letters change false => (done, change, none)
  (parts.foldl step ([], none, none)).1

/-- A line with matches replaced, from so many on, and whether there was
one. -/
def substituteFrom (e : Expression) (fold : Bool) (new : List EditPart) (everywhere : Bool)
    (line : Chars) : Nat → Nat → Nat → Option Nat → Chars × Bool
  | 0, _, from', _ => (line.drop from', false)
  | fuel + 1, nth, from', before =>
    match Expression.find? fold e line from' with
    | none => (line.drop from', false)
    | some (a, b, groups) =>
      let kept := (line.drop from').take (a - from')
      -- An empty match right behind another one does not count.
      let counts := !(a == b && before == some a)
      let go := fun (nth : Nat) =>
        if a == b then
          if line.length ≤ a then ([], false)
          else
            let (rest, hit) := substituteFrom e fold new everywhere line fuel nth (a + 1) none
            ((line.drop a).take 1 ++ rest, hit)
        else substituteFrom e fold new everywhere line fuel nth b (some b)
      if !counts then
        let (rest, hit) := go nth
        (kept ++ rest, hit)
      else if 1 < nth then
        let (rest, hit) := go (nth - 1)
        (kept ++ (if a == b then [] else (line.drop a).take (b - a)) ++ rest, hit)
      else
        let filled := fillParts line a b groups new
        if everywhere then
          let (rest, _) := go 1
          (kept ++ filled ++ rest, true)
        else (kept ++ filled ++ line.drop b, true)

/-- Shows the current line. -/
def Editing.print (e : Editing) (cs : Chars) : Editing :=
  { e with output := (cs ++ ['\n']) :: e.output }

/-- Goes through the commands from one on. -/
def editLine (cs : Array EditCommand) (silent : Bool) : Nat → Nat → Editing → EditEnd × Editing
  | 0, _, e => (.silent, e)
  | fuel + 1, i, e =>
    match cs[i]? with
    | none => (.normal, e)
    | some c =>
      let (hit, e) := e.chooses i c
      let next := editLine cs silent fuel (i + 1)
      if !hit then
        match c.action with
        | .opening _ => editLine cs silent fuel (i + 2 + closingAt 0 (cs.toList.drop (i + 1))) e
        | _ => next e
      else
        let jump := fun (name : Chars) (e : Editing) =>
          if name.isEmpty then (EditEnd.normal, e)
          else match cs.findIdx? fun d => match d.action with
              | .label n => n == name
              | _ => false with
            | some j => editLine cs silent fuel j e
            | none => (.normal, e)
        match c.action with
        | .opening _ | .closing | .label _ => next e
        | .exchange from' images =>
          next { e with pattern := e.pattern.map fun x => ((from'.zip images).lookup x).getD x }
        | .substitute p fold new everywhere nth prints file =>
          match p.orElse fun _ => e.lastPattern with
          | none => next e
          | some p =>
            let (line, hit) := substituteFrom p fold new everywhere e.pattern
              (2 * e.pattern.length + 4) nth 0 none
            let e := { e with lastPattern := some p }
            if !hit then next e
            else
              let e := { e with pattern := line, swapped := true }
              let e := if prints then e.print line else e
              let e := match file with
                | some path => { e with files := e.files ++ [(path, line ++ ['\n'])] }
                | none => e
              next e
        | .text kind text =>
          if kind == 'i' then next (e.print text)
          else if kind == 'a' then next { e with later := e.later ++ [text ++ ['\n']] }
          else
            let inRange := (e.ranges.lookup i).isSome
            (.silent, if inRange && !c.negated then e else e.print text)
        | .jump kind name =>
          if kind == 'b' then jump name e
          else if (kind == 't') == e.swapped then jump name { e with swapped := false }
          else next { e with swapped := false }
        | .quit kind status => (.quit (kind == 'q') status, e)
        | .readFile _ => next e
        | .writeFile path => next { e with files := e.files ++ [(path, e.pattern ++ ['\n'])] }
        | .plain letter =>
          match letter with
          | 'd' => (.silent, e)
          | 'D' =>
            match e.pattern.dropWhile (· != '\n') with
            | _ :: rest => (.again, { e with pattern := rest })
            | [] => (.silent, e)
          | 'p' => next (e.print e.pattern)
          | 'P' => next (e.print (e.pattern.takeWhile (· != '\n')))
          | '=' => next (e.print (digits e.number))
          | 'g' => next { e with pattern := e.hold }
          | 'G' => next { e with pattern := e.pattern ++ ['\n'] ++ e.hold }
          | 'h' => next { e with hold := e.pattern }
          | 'H' => next { e with hold := e.hold ++ ['\n'] ++ e.pattern }
          | 'x' => next { e with pattern := e.hold, hold := e.pattern }
          | 'z' => next { e with pattern := [] }
          | 'n' =>
            match e.rest with
            | [] => (.quit true 0, e)
            | l :: rest =>
              let e := if silent then e else e.print e.pattern
              let e := { e with output := e.later.reverse ++ e.output, later := [] }
              next { e with pattern := l, rest := rest, number := e.number + 1 }
          | 'N' =>
            match e.rest with
            | [] => (.quit true 0, e)
            | l :: rest =>
              next { e with
                pattern := e.pattern ++ ['\n'] ++ l, rest := rest, number := e.number + 1 }
          | _ => next (e.print e.pattern)

/-- Goes through all lines: the status and the state at the end. -/
def editLines (cs : Array EditCommand) (silent : Bool) : Nat → Bool → Editing → Nat × Editing
  | 0, _, e => (0, e)
  | fuel + 1, again, e =>
    let begin := if again then some e else match e.rest with
      | [] => none
      | l :: rest =>
        some { e with pattern := l, rest := rest, number := e.number + 1, swapped := false }
    match begin with
    | none => (0, e)
    | some e =>
      let (ending, e) := editLine cs silent (64 * cs.size + 20000) 0 e
      let flush := fun (e : Editing) =>
        { e with output := e.later.reverse ++ e.output, later := [] }
      match ending with
      | .normal =>
        editLines cs silent fuel false (flush (if silent then e else e.print e.pattern))
      | .silent => editLines cs silent fuel false (flush e)
      | .again => editLines cs silent fuel true (flush e)
      | .quit shows status =>
        (status, if shows then flush (if silent then e else e.print e.pattern) else e)

/-- Edits its input or files. -/
def sed : Body := fun args => do
  let args := shorten [("quiet", 'n'), ("silent", 'n'), ("expression", 'e'),
    ("regexp-extended", 'E'), ("in-place", 'i'), ("separate", 's')] args
  match Options.readAnywhere "nErisuz" "ef" args with
  | .error t => complainOptions "sed" 1 t
  | .ok o =>
    let scripts := (o.letters.filter (·.1 == 'e')).map (·.2)
    let fromFile ← match o.value? 'f' with
      | some path => do
        match ← readPath path with
        | .ok cs => pure [cs]
        | .error _ => pure []
      | none => pure []
    let own := scripts ++ fromFile
    let (script, files) := if own.isEmpty then (o.arguments.headD [], o.arguments.drop 1)
      else (joinWith ['\n'] own, o.arguments)
    if own.isEmpty && o.arguments.isEmpty then
      Act.write 2 "Usage: sed [OPTION]... script [input-file]...\n".toList
      return 1
    let spelling := if o.has 'E' || o.has 'r' then Expression.Spelling.extended else .basic
    match readEdit? spelling (script.length + 2) script with
    | none =>
      complain "sed" "-e expression #1: unknown command".toList
      return 1
    | some commands =>
      let run := fun (text : Chars) =>
        let lines := bareLines text
        let (status, e) := editLines commands.toArray (o.has 'n') (4 * lines.length + 64) false
          { pattern := [], rest := lines }
        let shown := e.output.reverse.flatten
        let ended := text.isEmpty || text.getLast? == some '\n'
        (status, if ended then shown else dropSuffix ['\n'] shown, e.files)
      let keep := fun (written : List (Chars × Chars)) => do
        for path in (written.map (·.1)).eraseDups do
          let text := ((written.filter (·.1 == path)).map (·.2)).flatten
          match ← Act.openPath path { writes := true, truncates := true } with
          | .ok n => let _ ← Act.writeOpened n text
          | .error _ => pure ()
      let (inputs, trouble) ← readInputs "sed" files 2
      if o.has 'i' then
        let mut status := trouble
        for (path, text) in inputs do
          let (s, shown, written) := run text
          keep written
          match ← Act.openPath path { writes := true, truncates := true } with
          | .ok n => let _ ← Act.writeOpened n shown
          | .error _ => pure ()
          status := max status s
        return status
      else
        let (status, shown, written) := run ((inputs.map (·.2)).flatten)
        keep written
        Act.write 1 shown
        return max status trouble

end ScriptMatrix.Sandbox.Program
