import ScriptMatrix.Sandbox.Shell.Syntax

/-!
# `ScriptMatrix.Sandbox.Shell.Read.Scan`: moving through a script

A `Scan` is what is left of a script, and on which line. A backslash in
front of a newline joins two lines, and then neither is there. The text
of a document that stands in the script is cut out as soon as it is
announced; its lines count as passed with the next newline.
-/

set_option autoImplicit false

namespace ScriptMatrix.Sandbox.Shell

/-- Why a script makes no sense. -/
inductive Unreadable where
  /-- Something stands where it must not. -/
  | unexpected (line : Nat) (token : Chars)
  /-- The end comes before something is complete. -/
  | unfinished (line : Nat) (awaited : Option Char)
  /-- Something stands among the elements of an array where it must not, or
  they do not end; what is behind that line makes sense again. -/
  | unlisted (line : Nat) (token : Option Chars) (rest : Chars)
  deriving Repr, DecidableEq

/-- What is left of a script, and what is known there. -/
structure Scan where
  rest : Chars
  /-- The number of the line that `rest` begins on. -/
  line : Nat
  /-- How many lines have been cut out behind this one. -/
  cut : Nat
  dialect : Dialect
  /-- Whether groups in parentheses are patterns. -/
  groups : Bool
  /-- What names at the front of a command stand for. -/
  aliases : List (Chars × Chars)

/-- A step in reading a script. -/
abbrev Read := StateT Scan (Except Unreadable)

/-- Passes over joined lines: the rest, and how many there were. -/
def dropJoins (count : Nat) : Chars → Chars × Nat
  | '\\' :: '\n' :: cs => dropJoins (count + 1) cs
  | cs => (cs, count)

/-- A character that ends a word. -/
def isMeta (c : Char) : Bool :=
  isGap c || ['\n', ';', '&', '|', '(', ')', '<', '>'].contains c

/-- Whether a text begins with the given one. -/
def beginsWith (s : String) (cs : Chars) : Bool := s.toList.isPrefixOf cs

namespace Read

/-- Whether the extended dialect is read. -/
def isExtended : Read Bool := return (← get).dialect == .extended

/-- Passes over joined lines. -/
def joins : Read Unit := modify fun s =>
  let (rest, n) := dropJoins 0 s.rest
  { s with rest := rest, line := s.line + n }

/-- Passes over so many characters. -/
def drop (n : Nat) : Read Unit := modify fun s =>
  { s with rest := s.rest.drop n, line := s.line + (s.rest.take n).count '\n' }

/-- The next character, past joined lines. -/
def peek : Read (Option Char) := do
  joins
  return (← get).rest.head?

/-- Whether the rest begins with the given text. -/
def looksAt (s : String) : Read Bool := do
  joins
  return beginsWith s (← get).rest

/-- Passes over the given text, if it comes next. -/
def bumpIf (s : String) : Read Bool := do
  if ← looksAt s then
    drop s.length
    return true
  else return false

/-- Passes over the given text of the extended dialect, if it comes next. -/
def bumpExtended (s : String) : Read Bool := do
  if ← isExtended then bumpIf s else return false

/-- Passes over blanks. -/
def blanksIn : Nat → Read Unit
  | 0 => return ()
  | fuel + 1 => do
    if (← peek).any isGap then
      drop 1
      blanksIn fuel

/-- Passes over blanks and a comment behind them. -/
def blanks : Read Unit := do
  blanksIn ((← get).rest.length + 1)
  if (← get).rest.head? == some '#' then
    modify fun s => { s with rest := s.rest.dropWhile (· != '\n') }

/-- Passes over a newline, and over what was cut out behind it. -/
def newline : Read Unit := modify fun s =>
  { s with rest := s.rest.drop 1, line := s.line + 1 + s.cut, cut := 0 }

/-- Passes over blanks, comments and newlines. -/
def linebreaksIn : Nat → Read Unit
  | 0 => return ()
  | fuel + 1 => do
    blanks
    if (← peek) == some '\n' then
      newline
      linebreaksIn fuel

/-- Passes over blanks, comments and newlines. -/
def linebreaks : Read Unit := do linebreaksIn ((← get).rest.length + 1)

/-- The token at the front of a text. -/
def tokenOf (cs : Chars) : Chars :=
  let operators := [";;&", ";;", ";&", "&&", "||", "<<<", "<<-", "<<", ">>", "&>", "\n"]
  match operators.find? fun op => beginsWith op cs with
  | some "\n" => "newline".toList
  | some op => op.toList
  | none =>
    let word := cs.takeWhile (!isMeta ·)
    if word.isEmpty then cs.take 1 else word

/-- Complains about what comes next. -/
def unexpected {α : Type} : Read α := do
  let s ← get
  if s.rest.isEmpty then throw (.unfinished s.line none)
  else throw (.unexpected s.line (tokenOf s.rest))

/-- Passes over the given text, which has to come next. -/
def expect (t : String) : Read Unit := do
  if !(← bumpIf t) then unexpected

/-- The word that comes next, as far as its characters show. -/
def peekWord : Read Chars := do
  joins
  return (← get).rest.takeWhile (!isMeta ·)

/-- Passes over blanks and over the given word, if it comes next. -/
def bumpWord (w : String) : Read Bool := do
  blanks
  if (← peekWord) == w.toList then
    drop w.length
    return true
  else return false

/-- Passes over the given word, which has to come next. -/
def expectWord (w : String) : Read Unit := do
  if !(← bumpWord w) then unexpected

/-- How many characters of a text stand before one that closes what is
open, where parentheses or brackets may nest and quotes hide them. -/
def balanced (opening closing : Char) : Nat → Nat → Chars → Option Nat
  | 0, _, _ => none
  | fuel + 1, depth, cs =>
    let quote := fun (q : Char) (rest : Chars) =>
      let inside := rest.takeWhile (· != q)
      (balanced opening closing fuel depth (rest.drop (inside.length + 1))).map
        (· + inside.length + 2)
    match cs with
    | [] => none
    | '\\' :: _ :: rest => (balanced opening closing fuel depth rest).map (· + 2)
    | c :: rest =>
      if c == '\'' || c == '"' || c == Char.ofNat 96 then quote c rest
      else if c == opening then (balanced opening closing fuel (depth + 1) rest).map (· + 1)
      else if c == closing then
        match depth with
        | 0 => some 0
        | d + 1 => (balanced opening closing fuel d rest).map (· + 1)
      else (balanced opening closing fuel depth rest).map (· + 1)

/-- The text up to the character that closes what is open, which is passed
over as well. -/
def takeBalanced (opening closing : Char) : Read Chars := do
  let s ← get
  match balanced opening closing (s.rest.length + 1) 0 s.rest with
  | none => throw (.unfinished s.line (some closing))
  | some n =>
    drop (n + 1)
    return s.rest.take n

/-- The text of a sum up to two closing parentheses, if there are two. -/
def takeSum? : Read (Option Chars) := do
  let s ← get
  match balanced '(' ')' (s.rest.length + 1) 0 s.rest with
  | none => return none
  | some n =>
    if s.rest[n + 1]? == some ')' then
      drop (n + 2)
      return some (s.rest.take n)
    else return none

end Read

end ScriptMatrix.Sandbox.Shell
