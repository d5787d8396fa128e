import ScriptMatrix.Sandbox.Shell.Read.Scan

/-!
# `ScriptMatrix.Sandbox.Shell.Read.Document`: text that stands in a script

A document begins on the line behind its announcement and ends with a line
that holds the announced word alone. Where the word is written without
quotes, lines may be joined by backslashes.
-/

set_option autoImplicit false

namespace ScriptMatrix.Sandbox.Shell

/-- A text up to the end of its first line, the newline included, where
newlines between quotes end no line; and the rest. -/
def cutLine : Nat → Chars → Chars × Chars
  | 0, cs => (cs, [])
  | fuel + 1, cs =>
    match cs with
    | [] => ([], [])
    | '\n' :: rest => (['\n'], rest)
    | '\\' :: c :: rest =>
      let (front, back) := cutLine fuel rest
      ('\\' :: c :: front, back)
    | c :: rest =>
      if c == '\'' || c == '"' then
        let inside := rest.takeWhile (· != c)
        let (front, back) := cutLine fuel (rest.drop (inside.length + 1))
        (c :: inside ++ (rest.drop inside.length).take 1 ++ front, back)
      else
        let (front, back) := cutLine fuel rest
        (c :: front, back)

/-- Whether a line ends with a backslash that joins it to the next. -/
def isJoined (line : Chars) : Bool :=
  ((line.reverse.drop 1).takeWhile (· == '\\')).length % 2 == 1 && line.getLast? == some '\n'

/-- The lines of a document before the one that ends it, what follows that
one, and how many lines there are with it. -/
def cutDocument (delimiter : Chars) (stripTabs joins : Bool) :
    List Chars → List Chars × List Chars × Nat
  | [] => ([], [], 0)
  | line :: rest =>
    let shown := if stripTabs then line.dropWhile (· == '\t') else line
    let text := if shown.getLast? == some '\n' then shown.dropLast else shown
    if text == delimiter then ([], rest, 1)
    else if joins && isJoined shown then
      match rest with
      | next :: others =>
        let (body, after, n) := cutDocument delimiter stripTabs joins others
        (shown :: next :: body, after, n + 2)
      | [] => ([shown], [], 1)
    else
      let (body, after, n) := cutDocument delimiter stripTabs joins rest
      (shown :: body, after, n + 1)

/-- A word with its quotes removed, and whether it had any. -/
def unquoteWord : Nat → Chars → Chars × Bool
  | 0, cs => (cs, false)
  | fuel + 1, cs =>
    match cs with
    | [] => ([], false)
    | '\\' :: c :: rest => (c :: (unquoteWord fuel rest).1, true)
    | c :: rest =>
      if c == '\'' || c == '"' then
        let inside := rest.takeWhile (· != c)
        (inside ++ (unquoteWord fuel (rest.drop (inside.length + 1))).1, true)
      else
        let (front, quoted) := unquoteWord fuel rest
        (c :: front, quoted)

/-- How many characters the word at the front of a text has. -/
def wordLength : Nat → Chars → Nat
  | 0, _ => 0
  | fuel + 1, cs =>
    match cs with
    | [] => 0
    | '\\' :: _ :: rest => 2 + wordLength fuel rest
    | c :: rest =>
      if c == '\'' || c == '"' then
        let inside := rest.takeWhile (· != c)
        inside.length + 2 + wordLength fuel (rest.drop (inside.length + 1))
      else if isMeta c then 0
      else 1 + wordLength fuel rest

namespace Read

/-- Reads the word that announces a document, and cuts the document out:
its text, and whether the text stands for itself. -/
def document (stripTabs : Bool) : Read (Chars × Bool) := do
  blanks
  let s ← get
  let n := wordLength (s.rest.length + 1) s.rest
  if n == 0 then unexpected
  drop n
  let (delimiter, quoted) := unquoteWord (n + 1) (s.rest.take n)
  let s ← get
  let (front, back) := cutLine (s.rest.length + 1) s.rest
  let (body, after, lines) := cutDocument delimiter stripTabs (!quoted) (linesOf back)
  set { s with rest := front ++ after.flatten, cut := s.cut + lines }
  return (body.flatten, quoted)

end Read

end ScriptMatrix.Sandbox.Shell
