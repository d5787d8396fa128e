import ScriptMatrix.Sandbox.Shell.Read.Condition
import ScriptMatrix.Sandbox.Shell.Read.Document

/-!
# `ScriptMatrix.Sandbox.Shell.Read.Command`: reading commands

A script is read line by line: the commands of a line are complete before
any of them is carried out. Words like `if` and `done` mean something only
where a command may begin.
-/

set_option autoImplicit false

namespace ScriptMatrix.Sandbox.Shell

/-- The words that end a list of commands. -/
def terminators : List Chars :=
  ["then", "else", "elif", "fi", "do", "done", "esac", "\x7d"].map String.toList

/-- The commands whose arguments may be assignments. -/
def declarers : Dialect → List Chars
  | .extended => ["declare", "typeset", "local", "export", "readonly"].map String.toList
  | .plain => ["local", "export", "readonly"].map String.toList

/-- The words that begin a command made of others, in both dialects. -/
def compoundFronts : List Chars :=
  ["\x7b", "if", "while", "until", "case", "for"].map String.toList

/-- The words that do so in the extended dialect alone. -/
def extendedFronts : List Chars := ["[[", "select"].map String.toList

/-- What stands in front of the value in an assignment. -/
structure AssignmentFront where
  name : Chars
  index : Option Chars
  append : Bool
  /-- How many characters it takes up. -/
  length : Nat

/-- The front of an assignment, if a text begins with one. -/
def AssignmentFront.ofChars? (d : Dialect) (cs : Chars) : Option AssignmentFront :=
  let name := if cs.head?.any isNameStart then cs.takeWhile isNameChar else []
  if name.isEmpty then none
  else
    let rest := cs.drop name.length
    let sign := fun (index : Option Chars) (used : Nat) (rest : Chars) =>
      match rest with
      | '=' :: _ => some ⟨name, index, false, used + 1⟩
      | '+' :: '=' :: _ => if d == .extended then some ⟨name, index, true, used + 2⟩ else none
      | _ => none
    if d == .extended && rest.head? == some '[' then
      match Read.balanced '[' ']' (rest.length + 1) 0 (rest.drop 1) with
      | some n =>
        sign (some ((rest.drop 1).take n)) (name.length + n + 2) (rest.drop (n + 2))
      | none => none
    else sign none name.length rest

/-- The parts of a simple command. -/
structure SimpleParts where
  assignments : List Assignment := []
  arguments : List Argument := []
  redirects : List Redirect := []

/-- The characters of a word that is written without quotes. -/
def literal? (w : Word) : Option Chars :=
  w.foldr (fun p rest => match p, rest with
    | .plain cs, some more => some (cs ++ more)
    | _, _ => none) (some [])

namespace SimpleParts

/-- The first word, as it is written. -/
def name? (p : SimpleParts) : Option Chars :=
  match p.arguments with
  | .word w :: _ => literal? w
  | _ => none

/-- Whether arguments may be assignments. -/
def declares (d : Dialect) (p : SimpleParts) : Bool := p.name?.any (declarers d).contains

/-- Whether nothing has been read. -/
def isEmpty (p : SimpleParts) : Bool :=
  p.assignments.isEmpty && p.arguments.isEmpty && p.redirects.isEmpty

end SimpleParts

/-- How many characters at the front of a text name the stream of a
redirection, as a number or as a variable. -/
def streamFront (d : Dialect) (cs : Chars) : Option (Option Nat × Option Chars × Nat) :=
  let points := fun (rest : Chars) => match rest with
    | c :: after => (c == '<' || c == '>') && !(d == Dialect.extended && after.head? == some '(')
    | [] => false
  let ds := cs.takeWhile isDigit
  if points cs then some (none, none, 0)
  else if !ds.isEmpty && points (cs.drop ds.length) then
    some (some (numberIn 10 ds), none, ds.length)
  else match cs with
    | '\x7b' :: rest =>
      let name := rest.takeWhile (· != '\x7d')
      if d == Dialect.extended && isName name && points (rest.drop (name.length + 1)) then
        some (none, some name, name.length + 2)
      else none
    | _ => none

/-- The operators of redirections, longer ones first. -/
def redirectOperators : List (String × RedirectMode) := [
  (">>", .append), (">&", .sameOutput), (">|", .overwrite), (">", .write),
  ("<&", .sameInput), ("<>", .readWrite), ("<", .read)]

/-- The redirection of errors to where the output goes. -/
def errorsToOutput : Redirect := .mk (some 2) none .sameOutput [.plain ['1']]

/-- The parts of a text between semicolons. -/
def splitSums : Nat → Chars → List Chars
  | _, [] => [[]]
  | depth, c :: cs =>
    let next := if c == '(' then depth + 1 else if c == ')' then depth - 1 else depth
    if c == ';' && depth == 0 then [] :: splitSums depth cs
    else match splitSums next cs with
      | front :: others => (c :: front) :: others
      | [] => [[c]]

/-- A text without so many of its lines. -/
def dropLines : Nat → Chars → Chars
  | 0, cs => cs
  | n + 1, cs => dropLines n ((cs.dropWhile (· != '\n')).drop 1)

namespace Read

/-- Reads the elements of an array. What goes wrong there is no matter for
the lines behind them. -/
def listing {α : Type} (r : Read α) : Read α := do
  let s ← get
  tryCatch r fun
    | .unexpected n token =>
      throw (.unlisted n (some token) (dropLines (n - s.line + 1) s.rest))
    | .unfinished n _ => throw (.unlisted n none [])
    | e => throw e

/-- Reads the value of an assignment: a word, or elements between
parentheses. -/
def assignedValue (commands : Read (List Command)) : Nat → Read AssignedValue
  | fuel => do
    if (← isExtended) && (← get).rest.head? == some '(' then
      drop 1
      let rec elements : Nat → Read (List Element)
        | 0 => do throw (.unfinished (← get).line (some ')'))
        | fuel + 1 => do
          linebreaks
          if ← bumpIf ")" then return []
          let s ← get
          let found := match s.rest with
            | '[' :: rest =>
              match Read.balanced '[' ']' (rest.length + 1) 0 rest with
              | some n =>
                match rest.drop (n + 1) with
                | '=' :: _ => some (rest.take n, false, n + 3)
                | '+' :: '=' :: _ => some (rest.take n, true, n + 4)
                | _ => none
              | none => none
            | _ => none
          match found with
          | some (index, append, used) =>
            drop used
            let i ← within index (word commands .whole)
            let w ← word commands .word
            return .at i append w :: (← elements fuel)
          | none =>
            let w ← word commands .word
            if w.isEmpty then unexpected
            return .next w :: (← elements fuel)
      return .elements (← listing (elements fuel))
    else return .text (← word commands .word)

/-- Reads an assignment, if one comes next. -/
def assignment? (commands : Read (List Command)) : Read (Option Assignment) := do
  joins
  let s ← get
  match AssignmentFront.ofChars? s.dialect s.rest with
  | none => return none
  | some front =>
    drop front.length
    let i ← match front.index with
      | some text => do pure (some (← within text (word commands .whole)))
      | none => pure none
    return some (.mk front.name i front.append (← assignedValue commands (s.rest.length + 1)))

/-- Reads a redirection, if one comes next. -/
def redirect? (commands : Read (List Command)) : Read (Option Redirect) := do
  joins
  let s ← get
  let target := do
    blanks
    let w ← word commands .word
    if w.isEmpty then unexpected
    return w
  if ← bumpExtended "&>>" then
    return some (.mk none none .appendBoth (← target))
  else if ← bumpExtended "&>" then
    return some (.mk none none .both (← target))
  else match streamFront s.dialect s.rest with
    | none => return none
    | some (stream, named, n) =>
      drop n
      if ← bumpExtended "<<<" then
        return some (.mk stream named .line (← target))
      else if ← bumpIf "<<" then
        let strip ← bumpIf "-"
        let (text, quoted) ← document strip
        if quoted then return some (.mk stream named .document [.quoted text])
        else
          let w ← within text (word commands .document)
          return some (.mk stream named .document [.double w])
      else
        for (op, mode) in redirectOperators do
          if ← bumpIf op then return some (.mk stream named mode (← target))
        unexpected

/-- Reads the redirections that come next. -/
def redirects (commands : Read (List Command)) : Nat → Read (List Redirect)
  | 0 => return []
  | fuel + 1 => do
    blanks
    match ← redirect? commands with
    | none => return []
    | some r => return r :: (← redirects commands fuel)

/-- Reads words up to the end of a line or a semicolon. -/
def wordList (commands : Read (List Command)) : Nat → Read (List Word)
  | 0 => return []
  | fuel + 1 => do
    blanks
    match ← peek with
    | none => return []
    | some c =>
      if c == ';' || c == '\n' then return []
      let w ← word commands .word
      if w.isEmpty then unexpected
      return w :: (← wordList commands fuel)

/-- Puts the text of an alias in place of its name, if one comes next. -/
def unalias : Nat → List Chars → Read Unit
  | 0, _ => return ()
  | fuel + 1, seen => do
    blanks
    let w ← peekWord
    let s ← get
    match s.aliases.lookup w with
    | some text =>
      if !seen.contains w then
        set { s with rest := text ++ s.rest.drop w.length }
        unalias fuel (w :: seen)
    | none => return ()

/-- Whether a list of commands ends here. -/
def atListEnd : Read Bool := do
  match ← peek with
  | none => return true
  | some c =>
    if c == ')' then return true
    if c == ';' then return (← looksAt ";;") || (← looksAt ";&")
    return terminators.contains (← peekWord)

/-- Passes over what separates two commands: whether there was something,
and whether the first is left to itself. -/
def separator : Read (Bool × Bool) := do
  blanks
  if (← looksAt ";;") || (← looksAt ";&") then return (false, false)
  if ← bumpIf ";" then return (true, false)
  if !(← looksAt "&&") then
    if ← bumpIf "&" then return (true, true)
  if (← peek) == some '\n' then return (true, false)
  return (false, false)

/-- Complains if there are no commands. -/
def someCommands (r : Read (List Command)) : Read (List Command) := do
  let body ← r
  if body.isEmpty then unexpected
  return body

mutual

/-- Reads commands up to where a list of them ends. -/
def commands : Nat → Read (List Command)
  | 0 => do throw (.unfinished (← get).line none)
  | fuel + 1 => do
    linebreaks
    if ← atListEnd then return []
    let c ← chain fuel
    let (goesOn, alone) ← separator
    let c := if alone then .background c else c
    if goesOn then return c :: (← commands fuel) else return [c]

/-- Reads commands that depend on one another. -/
def chain : Nat → Read Command
  | 0 => do throw (.unfinished (← get).line none)
  | fuel + 1 => do
    let first ← pipeline fuel
    links fuel first

/-- Reads what depends on a command. -/
def links : Nat → Command → Read Command
  | 0, _ => do throw (.unfinished (← get).line none)
  | fuel + 1, first => do
    blanks
    if ← bumpIf "&&" then
      linebreaks
      links fuel (.both first (← pipeline fuel))
    else if ← bumpIf "||" then
      linebreaks
      links fuel (.either first (← pipeline fuel))
    else return first

/-- Reads commands connected by pipes. -/
def pipeline : Nat → Read Command
  | 0 => do throw (.unfinished (← get).line none)
  | fuel + 1 => do
    blanks
    let w ← peekWord
    if w == ['!'] then
      drop 1
      blanks
      let nothing := (← isExtended) && ((← peek).all fun c => c == '\n' || c == ';' || c == ')')
      if nothing then return .negated (.pipeline [])
      if !(← isExtended) && (← peekWord) == ['!'] then unexpected
      return .negated (← pipeline fuel)
    else if w == "time".toList && (← isExtended) then
      drop 4
      let _ ← bumpWord "-p"
      blanks
      let nothing := (← peek).all fun c => c == '\n' || c == ';' || c == ')'
      if nothing then return .timed (.pipeline [])
      return .timed (← pipeline fuel)
    else
      let parts ← piped fuel
      match parts with
      | [c] => return c
      | _ => return .pipeline parts

/-- Reads commands between bars. -/
def piped : Nat → Read (List Command)
  | 0 => do throw (.unfinished (← get).line none)
  | fuel + 1 => do
    let line := (← get).line
    let c ← command fuel
    blanks
    if ← looksAt "||" then return [c]
    if ← bumpExtended "|&" then
      linebreaks
      return .redirected line c [errorsToOutput] :: (← piped fuel)
    else if ← bumpIf "|" then
      linebreaks
      return c :: (← piped fuel)
    else return [c]

/-- Reads a command. -/
def command : Nat → Read Command
  | 0 => do throw (.unfinished (← get).line none)
  | fuel + 1 => do
    unalias 16 []
    let s ← get
    let w ← peekWord
    let extended := s.dialect == .extended
    let closed := fun (c : Command) => do
      let rs ← redirects (commands fuel) (s.rest.length + 1)
      if rs.isEmpty then return c else return .redirected s.line c rs
    if s.rest.head? == some '(' then closed (← compound fuel "(".toList)
    else if compoundFronts.contains w then closed (← compound fuel w)
    else if extended && extendedFronts.contains w then closed (← compound fuel w)
    else if extended && w == "function".toList then
      drop w.length
      blanks
      let name ← peekWord
      if name.isEmpty then unexpected
      drop name.length
      blanks
      if ← bumpIf "(" then
        blanks
        expect ")"
      linebreaks
      functionBody fuel name
    else if terminators.contains w then unexpected
    else
      let parts ← elements fuel {}
      if parts.isEmpty then unexpected
      let named :=
        parts.assignments.isEmpty && parts.redirects.isEmpty && parts.arguments.length == 1
      match parts.name? with
      | some name =>
        if named && (← looksAt "(") then
          if !extended && !isName name then unexpected
          drop 1
          blanks
          expect ")"
          linebreaks
          functionBody fuel name
        else return .simple s.line parts.assignments parts.arguments parts.redirects
      | none => return .simple s.line parts.assignments parts.arguments parts.redirects

/-- Reads the body of a function. -/
def functionBody : Nat → Chars → Read Command
  | 0, _ => do throw (.unfinished (← get).line none)
  | fuel + 1, name => do
    let w ← peekWord
    let isCompound := (← get).rest.head? == some '(' || compoundFronts.contains w ||
      extendedFronts.contains w
    if (← isExtended) && !isCompound then unexpected
    return .function name (← command fuel)

/-- Reads the parts of a simple command. -/
def elements : Nat → SimpleParts → Read SimpleParts
  | 0, _ => do throw (.unfinished (← get).line none)
  | fuel + 1, p => do
    blanks
    let s ← get
    let subs := commands fuel
    match ← redirect? subs with
    | some r => elements fuel { p with redirects := p.redirects ++ [r] }
    | none =>
      match s.rest with
      | [] => return p
      | c :: rest =>
        let channel := s.dialect == .extended && (c == '<' || c == '>') && rest.head? == some '('
        if c == '(' then
          if p.arguments.length == 1 && p.assignments.isEmpty && p.redirects.isEmpty then return p
          else unexpected
        else if isMeta c && !channel then return p
        else
          let mayAssign := p.arguments.isEmpty || p.declares s.dialect
          match ← if mayAssign then assignment? subs else pure none with
          | some a =>
            if p.arguments.isEmpty then
              elements fuel { p with assignments := p.assignments ++ [a] }
            else elements fuel { p with arguments := p.arguments ++ [.assignment a] }
          | none =>
            let w ← word subs .word
            elements fuel { p with arguments := p.arguments ++ [.word w] }

/-- Reads a command that is made of others, given the word it begins
with. -/
def compound : Nat → Chars → Read Command
  | 0, _ => do throw (.unfinished (← get).line none)
  | fuel + 1, front => do
    let s ← get
    let body := someCommands (commands fuel)
    let between := fun (opening closing : String) => do
      expectWord opening
      let b ← body
      expectWord closing
      return b
    if front == ['('] then
      let asSum ← if ← bumpExtended "((" then takeSum? else pure none
      match asSum with
      | some text => return .sum s.line (← within text (word (commands fuel) .sum))
      | none =>
        set s
        drop 1
        let b ← body
        expect ")"
        return .subshell b
    else if front == ['\x7b'] then return .group (← between "\x7b" "\x7d")
    else if front == "if".toList then
      drop 2
      let (bs, otherwise) ← branches fuel
      return .choice bs otherwise
    else if front == "while".toList || front == "until".toList then
      drop 5
      let c ← body
      return .loop (front == "until".toList) c (← between "do" "done")
    else if front == "case".toList then
      drop 4
      blanks
      let subject ← word (commands fuel) .word
      if subject.isEmpty then unexpected
      linebreaks
      expectWord "in"
      return .select s.line subject (← cases fuel)
    else if front == "[[".toList then
      drop 2
      return .condition s.line (← condition (commands fuel))
    else
      drop front.length
      forLoop fuel s.line (front == "select".toList)

/-- Reads conditions and what is done if they hold. -/
def branches : Nat → Read (List Branch × List Command)
  | 0 => do throw (.unfinished (← get).line none)
  | fuel + 1 => do
    let c ← someCommands (commands fuel)
    expectWord "then"
    let b ← someCommands (commands fuel)
    if ← bumpWord "elif" then
      let (others, otherwise) ← branches fuel
      return (.mk c b :: others, otherwise)
    else if ← bumpWord "else" then
      let otherwise ← someCommands (commands fuel)
      expectWord "fi"
      return ([.mk c b], otherwise)
    else
      expectWord "fi"
      return ([.mk c b], [])

/-- Reads patterns and what is done if one matches. -/
def cases : Nat → Read (List Case)
  | 0 => do throw (.unfinished (← get).line none)
  | fuel + 1 => do
    linebreaks
    if ← bumpWord "esac" then return []
    if ← bumpIf "(" then blanks
    let ps ← patterns fuel
    expect ")"
    let b ← commands fuel
    linebreaks
    if ← bumpExtended ";;&" then return .mk ps b .goOn :: (← cases fuel)
    else if ← bumpIf ";;" then return .mk ps b .stop :: (← cases fuel)
    else if ← bumpExtended ";&" then return .mk ps b .fallThrough :: (← cases fuel)
    else
      expectWord "esac"
      return [.mk ps b .stop]

/-- Reads patterns between bars. -/
def patterns : Nat → Read (List Word)
  | 0 => do throw (.unfinished (← get).line none)
  | fuel + 1 => do
    blanks
    let w ← word (commands fuel) .word
    if w.isEmpty then unexpected
    blanks
    if ← bumpIf "|" then return w :: (← patterns fuel) else return [w]

/-- Reads a loop over words or sums, behind its first word. -/
def forLoop : Nat → Nat → Bool → Read Command
  | 0, _, _ => do throw (.unfinished (← get).line none)
  | fuel + 1, line, isMenu => do
    blanks
    let loopBody := do
      linebreaks
      if ← (do if ← isExtended then bumpWord "\x7b" else return false) then
        let b ← someCommands (commands fuel)
        expectWord "\x7d"
        return b
      else
        expectWord "do"
        let b ← someCommands (commands fuel)
        expectWord "done"
        return b
    let sums ← if isMenu then pure none else if ← bumpExtended "((" then takeSum? else pure none
    match sums with
    | some text =>
      match splitSums 0 text with
      | [start, condition, step] =>
        let sub := fun (t : Chars) => within t (word (commands fuel) .sum)
        let a ← sub start
        let c ← sub condition
        let n ← sub step
        blanks
        let _ ← bumpIf ";"
        return .count line a c n (← loopBody)
      | _ => unexpected
    | none =>
      let name ← peekWord
      if name.isEmpty || !((← isExtended) || isName name) then unexpected
      drop name.length
      blanks
      let made := fun (ws : Option (List Word)) (b : List Command) =>
        if isMenu then Command.menu line name ws b else Command.each line name ws b
      if ← bumpIf ";" then return made none (← loopBody)
      linebreaks
      if ← bumpWord "in" then
        let ws ← wordList (commands fuel) ((← get).rest.length + 1)
        if !(← bumpIf ";") then
          if (← peek) != some '\n' then unexpected
        return made (some ws) (← loopBody)
      else return made none (← loopBody)

end

/-- How deep a script may be nested and how long its lists may be, by its
length. -/
def commandFuel (length : Nat) : Nat := 8 * length + 64

/-- Reads the commands of the next line; none at the end of a script. -/
def line? : Read (Option (List Command)) := do
  linebreaks
  if (← peek).isNone then return none
  let fuel := commandFuel (← get).rest.length
  let rec rest : Nat → Read (List Command)
    | 0 => return []
    | n + 1 => do
      if ← atListEnd then
        if (← get).rest.isEmpty then return []
        unexpected
      let c ← chain fuel
      let (goesOn, alone) ← separator
      let c := if alone then .background c else c
      blanks
      match ← peek with
      | none => return [c]
      | some '\n' =>
        newline
        return [c]
      | some _ =>
        if !goesOn then unexpected
        return c :: (← rest n)
  return some (← rest fuel)

end Read

end ScriptMatrix.Sandbox.Shell
