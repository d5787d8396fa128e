import ScriptMatrix.Sandbox.Shell.Subshell

/-!
# `ScriptMatrix.Sandbox.Shell.Script`: carrying out a script line by line

The commands of a line are read as a whole and then carried out, before
the next line is read. So what a line changes holds for reading the lines
behind it, and a line that makes no sense is no problem before it is
reached.
-/

set_option autoImplicit false

namespace ScriptMatrix.Sandbox.Shell.Act

/-- A text in front of a reader that knows what the shell knows. -/
def scanOf (text : Chars) (line : Nat) : Act Scan := do
  let p ← process
  let named := p.dialect == .plain || p.extras.contains "expand_aliases"
  return {
    rest := text, line := line, cut := 0, dialect := p.dialect
    groups := p.extras.contains "extglob", aliases := if named then p.aliases else [] }

/-- Complains about a line that makes no sense. -/
def complainSyntax (text : Chars) (line : Nat) (e : Unreadable) : Act Unit := do
  let say := fun (n : Nat) (message : Chars) => do
    let before := (← process).line
    alter fun p => { p with line := n }
    complain message
    alter fun p => { p with line := before }
  let tick := Char.ofNat 96
  match ← isExtended, e with
  | true, .unexpected n token =>
    say n ("syntax error near unexpected token ".toList ++ [tick] ++ token ++ ['\''])
    let written := ((linesOf text)[n - line]?).getD []
    say n ([tick] ++ dropSuffix ['\n'] written ++ ['\''])
  | true, .unfinished n none => say n "syntax error: unexpected end of file".toList
  | true, .unfinished n (some c) =>
    say n ("unexpected EOF while looking for matching ".toList ++ [tick, c, '\''])
  | _, .unlisted n (some token) _ =>
    say n ("syntax error near unexpected token ".toList ++ [tick] ++ token ++ ['\''])
  | _, .unlisted n none _ =>
    say n ("unexpected EOF while looking for matching ".toList ++ [tick, ')', '\''])
  | false, .unexpected n token =>
    let shown := if token == "newline".toList then token else ['"'] ++ token ++ ['"']
    say n ("Syntax error: ".toList ++ shown ++ " unexpected".toList)
  | false, .unfinished n none => say n "Syntax error: end of file unexpected".toList
  | false, .unfinished n (some c) =>
    say n (if c == '"' || c == '\'' then "Syntax error: Unterminated quoted string".toList
      else if c == tick then "Syntax error: EOF in backquote substitution".toList
      else "Syntax error: Missing '".toList ++ [c, '\''])

/-- What is left of a script, and whether it has had commands. -/
structure Remainder where
  text : Chars
  line : Nat
  hasRun : Bool

/-- Carries out the commands of a line. In the extended dialect the next
line comes also after one that has been given up, but not in a shell that
another one has started. -/
def runLine (commands : List Command → Act Unit) (outermost : Bool) (cs : List Command) :
    Act Unit := do
  match ← attempt (commands cs) with
  | .error (.abandoned whole) =>
    let p ← process
    if p.dialect == .plain || 0 < p.level || (whole && !outermost) then throw (.abandoned whole)
  | r => ofResult r

/-- Reads the next line of a script and carries it out: what is left, if
there may be more. -/
def runNext (commands : List Command → Act Unit) (outermost : Bool) (r : Remainder) :
    Act (Option Remainder) := do
  let s ← scanOf r.text r.line
  match Read.line?.run s with
  | .error (.unlisted n token rest) =>
    complainSyntax r.text r.line (.unlisted n token rest)
    status 1
    if 0 < (← process).level then throw (.abandoned false)
    return if token.isNone then none else some ⟨rest, n + 1, true⟩
  | .error e =>
    complainSyntax r.text r.line e
    if ← isExtended then
      status 2
      return none
    else giveUp
  | .ok (none, _) =>
    if !r.hasRun then status 0
    return none
  | .ok (some cs, s) =>
    runLine commands outermost cs
    return some ⟨s.rest, s.line, true⟩

/-- Carries out a script whose first line has the given number. It is
outermost if no command of another script has asked for it. -/
def runScript (commands : List Command → Act Unit) (outermost : Bool) (text : Chars) (line : Nat) :
    Act Unit :=
  repeating (runNext commands outermost) ⟨text, line, false⟩

/-- Carries out the script that is read from the input. What is left of it
is there for its commands to read. -/
def runInput (commands : List Command → Act Unit) : Act Unit :=
  repeating (fun (state : Nat × Bool) => do
    let text ← takeAll 0
    let s ← scanOf text state.1
    match Read.line?.run s with
    | .error e =>
      complainSyntax text state.1 e
      status 2
      return none
    | .ok (none, _) => return none
    | .ok (some cs, s) =>
      giveBack s.rest
      runLine commands true cs
      return some (s.line, true)) (1, false)
where
  /-- Puts text back that has been read from the input. -/
  giveBack (text : Chars) : Act Unit := do
    match ← openNumber? 0 with
    | none => return ()
    | some n =>
      match ← opened? n with
      | some { channel := .queue q, .. } => alterSystem fun s => { s with
          queues := s.queues.modify q fun held =>
            ⟨text ++ held.settled.front, [], text.length + held.size⟩ }
      | _ => putBack 0 text.length

end ScriptMatrix.Sandbox.Shell.Act
