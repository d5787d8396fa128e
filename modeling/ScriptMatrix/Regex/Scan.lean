import ScriptMatrix.Regex.Error
import ScriptMatrix.Text.Blank

/-!
# `ScriptMatrix.Regex.Scan`: moving through the text of an expression

A `Scan` is what is left of the text with what has been learned on the
way. In verbose mode blanks and comments between the parts of an
expression are passed over; `bumpSpace` does so behind a character.
-/

set_option autoImplicit false

namespace ScriptMatrix.Regex

/-- The rest of the text, and what is known there. -/
structure Scan where
  rest : List Char
  /-- Whether blanks and comments say nothing. -/
  verbose : Bool
  /-- The names of the groups so far. -/
  names : List String
  deriving Repr

/-- A step in reading an expression. -/
abbrev Parse := StateT Scan (Except Error)

/-- Drops blanks and comments, in a comment or outside. -/
def dropRemarks (inComment : Bool) : List Char → List Char
  | [] => []
  | c :: cs =>
    if inComment then dropRemarks (c != '\n') cs
    else if Text.isBlank c then dropRemarks false cs
    else if c == '#' then dropRemarks true cs
    else c :: cs

/-- The first character that is no blank, past one comment mark. -/
def afterBlanks (inComment : Bool) : List Char → Option Char
  | [] => none
  | c :: cs =>
    if Text.isBlank c then afterBlanks inComment cs
    else if c == '#' && !inComment then afterBlanks true cs
    else some c

namespace Parse

/-- The next character. -/
def peek : Parse (Option Char) := return (← get).rest.head?

/-- Whether the text begins with the given one. -/
def looksAt (s : String) : Parse Bool := return s.toList.isPrefixOf (← get).rest

/-- Passes over so many characters. -/
def drop (n : Nat) : Parse Unit := modify fun s => { s with rest := s.rest.drop n }

/-- Passes over the next character. -/
def bump : Parse Unit := drop 1

/-- Passes over the given text, if it comes next. -/
def bumpIf (s : String) : Parse Bool := do
  if ← looksAt s then
    drop s.length
    return true
  else return false

/-- Passes over blanks and comments in verbose mode. -/
def space : Parse Unit :=
  modify fun s => if s.verbose then { s with rest := dropRemarks false s.rest } else s

/-- Passes over the next character and what says nothing behind it. -/
def bumpSpace : Parse Unit := do
  bump
  space

/-- The character behind the next one, past what says nothing. -/
def peekSecond : Parse (Option Char) := do
  let s ← get
  let tail := s.rest.drop 1
  if s.verbose then
    return match afterBlanks false tail with
      | some c => some c
      | none => tail.head?
  else return tail.head?

/-- The next character; at the end, the given error. -/
def char (atEnd : Error) : Parse Char := do
  match ← peek with
  | some c => return c
  | none => throw atEnd

/-- Passes over a character and gives the one after it; at the end, the
given error. -/
def nextChar (atEnd : Error) : Parse Char := do
  bumpSpace
  char atEnd

/-- Takes characters as long as they satisfy a condition. -/
def takeFrom (p : Char → Bool) : Nat → Parse (List Char)
  | 0 => return []
  | fuel + 1 => do
    match ← peek with
    | none => return []
    | some c =>
      if p c then
        bumpSpace
        return c :: (← takeFrom p fuel)
      else return []

/-- Takes characters as long as they satisfy a condition. -/
def takeWhile (p : Char → Bool) : Parse (List Char) := do
  takeFrom p (← get).rest.length

end Parse

end ScriptMatrix.Regex
