import ScriptMatrix.Regex.Brackets
import ScriptMatrix.Unicode.Lookup

/-!
# `ScriptMatrix.Regex.Reader`: the tree of an expression

`Pattern.read` reads the text of an expression. Alternatives are
separated by bars, parts follow one another, and a repetition belongs to
the part in front of it. A switch of flags lasts to the end of its group.
-/

set_option autoImplicit false

namespace ScriptMatrix.Regex

namespace Parse

/-- The flag with a letter. -/
def flagOf? : Char → Option Flag
  | 'i' => some .ignoreCase
  | 'm' => some .multiLine
  | 's' => some .dotAll
  | 'U' => some .swapGreed
  | 'u' => some .unicode
  | 'R' => some .crlf
  | 'x' => some .verbose
  | _ => none

/-- Reads flags up to what ends them. `on` tells whether no hyphen has
come yet, and `dangling` whether one has just come. -/
def flags : Nat → Bool → Bool → Switches → Parse Switches
  | 0, _, _, _ => throw .badFlags
  | fuel + 1, on, dangling, before => do
    let c ← char .badFlags
    if c == ':' || c == ')' then
      if dangling then throw .badFlags
      return before
    bump
    if c == '-' then
      if !on then throw .badFlags
      flags fuel false true before
    else match flagOf? c with
      | none => throw .badFlags
      | some f =>
        if before.any (·.1 == f) then throw .badFlags
        flags fuel on false (before ++ [(f, on)])

/-- Whether a character may stand in the name of a group. -/
def isGroupNameChar (c : Char) (first : Bool) : Bool :=
  if first then c == '_' || Unicode.alphabetic.has c
  else c == '_' || c == '.' || c == '[' || c == ']' || Unicode.alphanumeric.has c

/-- Reads the name of a group and the bracket behind it. -/
def groupName : Parse Unit := do
  let s ← get
  let name := s.rest.takeWhile (· != '>')
  if name.length == s.rest.length then throw .badGroupName
  match name with
  | [] => throw .badGroupName
  | c :: cs =>
    if !(isGroupNameChar c true && cs.all (isGroupNameChar · false)) then throw .badGroupName
    let text := String.ofList name
    if s.names.contains text then throw (.repeatedGroupName text)
    set { s with rest := s.rest.drop (name.length + 1), names := text :: s.names }

/-- Switches verbose mode as the flags say. -/
def applyVerbose (switches : Switches) : Parse Unit :=
  match switches.lookup .verbose with
  | some on => modify fun s => { s with verbose := on }
  | none => return ()

/-- What an opening parenthesis begins. -/
inductive Opening where
  /-- A switch of flags, already closed. -/
  | switch (switches : Switches)
  | group (switches : Switches)
  /-- A group whose match can be asked for. -/
  | captured

/-- Reads an opening parenthesis and the marks behind it. -/
def opening : Parse Opening := do
  bumpSpace
  if (← looksAt "?=") || (← looksAt "?!") || (← looksAt "?<=") || (← looksAt "?<!") then
    throw .lookAround
  if (← bumpIf "?P<") || (← bumpIf "?<") then
    groupName
    return .captured
  else if ← bumpIf "?" then
    let switches ← flags ((← get).rest.length + 1) true false []
    let c ← char .unclosedGroup
    bump
    if c == ')' then
      if switches.isEmpty then throw .repetitionOfNothing
      return .switch switches
    else return .group switches
  else return .captured

/-- Reads a decimal number of 32 bits; without digits there is none. -/
def decimal? : Parse (Option Nat) := do
  let _ ← takeWhile Text.isBlank
  let digits ← takeWhile fun c => '0' ≤ c && c ≤ '9'
  let _ ← takeWhile Text.isBlank
  if digits.isEmpty then return none
  let n := digits.foldl (fun n c => n * 10 + (c.toNat - 48)) 0
  if Nat.pow 2 32 ≤ n then throw .badCount
  return some n

/-- The part that a repetition belongs to: the last of those read, in
reversed order, and the others. -/
def repeatable : List Pattern → Parse (Pattern × List Pattern)
  | [] | .empty :: _ | .flags _ :: _ => throw .repetitionOfNothing
  | p :: ps => return (p, ps)

/-- Passes over the mark that makes a repetition stingy, if it is there. -/
def stingyMark : Parse Bool := do
  if (← peek) == some '?' then
    bump
    return true
  else return false

/-- Reads a repetition by a count in braces. -/
def counted (p : Pattern) : Parse Pattern := do
  let _ ← nextChar .badCount
  let least ← decimal?
  let c ← char .badCount
  let count ← (do
    if c == ',' then
      let d ← nextChar .badCount
      match least with
      | none => throw .badCount
      | some n =>
        if d == '\x7d' then pure (n, none)
        else match ← decimal? with
          | none => throw .badCount
          | some m => pure (n, some m)
    else match least with
      | none => throw .badCount
      | some n => pure (n, some n) : Parse (Nat × Option Nat))
  if (← peek) != some '\x7d' then throw .badCount
  bumpSpace
  let stingy ← stingyMark
  match count with
  | (n, some m) => if m < n then throw .badCount else return .repeated p n (some m) stingy
  | (n, none) => return .repeated p n none stingy

/-- Reads a repetition by a single mark. -/
def marked (p : Pattern) (mark : Char) : Parse Pattern := do
  bump
  let stingy ← stingyMark
  return match mark with
    | '?' => .repeated p 0 (some 1) stingy
    | '*' => .repeated p 0 none stingy
    | _ => .repeated p 1 none stingy

mutual

/-- Reads alternatives up to the end of their group or of the text, with
those before in reversed order. -/
def alternatives : Nat → List Pattern → Parse Pattern
  | 0, _ => throw .tooDeep
  | fuel + 1, before => do
    let p ← parts fuel []
    if (← peek) == some '|' then
      bump
      alternatives fuel (p :: before)
    else return .ofAlternatives (p :: before).reverse

/-- Reads the parts of one alternative, with those before in reversed
order. -/
def parts : Nat → List Pattern → Parse Pattern
  | 0, _ => throw .tooDeep
  | fuel + 1, before => do
    space
    match ← peek with
    | none | some '|' | some ')' => return .ofParts before.reverse
    | some '(' =>
      let wasVerbose := (← get).verbose
      match ← opening with
      | .switch switches =>
        applyVerbose switches
        parts fuel (.flags switches :: before)
      | .group switches =>
        applyVerbose switches
        let p ← closedGroup fuel wasVerbose
        parts fuel (.group switches p :: before)
      | .captured =>
        let p ← closedGroup fuel wasVerbose
        parts fuel (.captured p :: before)
    | some '[' =>
      let (negated, inner) ← brackets fuel
      parts fuel (.bracketed negated inner :: before)
    | some '\x7b' =>
      let (p, others) ← repeatable before
      parts fuel ((← counted p) :: others)
    | some '\\' => parts fuel ((← escape) :: before)
    | some c =>
      if c == '?' || c == '*' || c == '+' then
        let (p, others) ← repeatable before
        parts fuel ((← marked p c) :: others)
      else
        bump
        let p : Pattern := match c with
          | '.' => .dot
          | '^' => .anchor .caret
          | '$' => .anchor .dollar
          | _ => .letter ⟨c, false⟩
        parts fuel (p :: before)

/-- Reads what stands in a group and its end. Verbose mode is then as it
was in front of the group. -/
def closedGroup : Nat → Bool → Parse Pattern
  | 0, _ => throw .tooDeep
  | fuel + 1, wasVerbose => do
    let p ← alternatives fuel []
    if (← peek) != some ')' then throw .unclosedGroup
    bump
    modify fun s => { s with verbose := wasVerbose }
    return p

end

end Parse

/-- Reads the text of an expression. -/
def Pattern.read (text : String) : Except Error Pattern := do
  let cs := text.toList
  let (p, s) ← (Parse.alternatives (4 * cs.length + 4) []).run ⟨cs, false, []⟩
  match s.rest with
  | _ :: _ => throw .unopenedGroup
  | [] => if depthLimit < p.depth then throw .tooDeep else return p

end ScriptMatrix.Regex
