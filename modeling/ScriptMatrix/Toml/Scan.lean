import ScriptMatrix.Toml.Error

/-!
# `ScriptMatrix.Toml.Scan`: blanks, comments, keys and strings

A text is read from left to right. Blanks are spaces and tabs; lines end
with a newline, perhaps after a carriage return. Control characters may
stand nowhere else.
-/

set_option autoImplicit false

namespace ScriptMatrix.Toml

/-- A step in reading settings: the state is what is left of the text. -/
abbrev Parse := StateT (List Char) (Except Error)

namespace Parse

/-- Gives up. -/
def fail {α : Type} (reason : String) : Parse α := throw (.malformed reason)

/-- The next character. -/
def peek : Parse (Option Char) := return (← get).head?

/-- Passes over so many characters. -/
def drop (n : Nat) : Parse Unit := modify (·.drop n)

/-- Whether the text begins with the given one. -/
def looksAt (s : String) : Parse Bool := return s.toList.isPrefixOf (← get)

/-- Passes over the given text, if it comes next. -/
def bumpIf (s : String) : Parse Bool := do
  if ← looksAt s then
    drop s.length
    return true
  else return false

/-- Passes over the given text, which has to come next. -/
def expect (s : String) : Parse Unit := do
  if !(← bumpIf s) then fail ("expected '" ++ s ++ "'")

/-- Takes characters as long as they satisfy a condition. -/
def takeWhile (p : Char → Bool) : Parse (List Char) := do
  let cs ← get
  set (cs.dropWhile p)
  return cs.takeWhile p

/-- A space or a tab. -/
def isBlank (c : Char) : Bool := c == ' ' || c == '\t'

/-- A decimal digit. -/
def isDigit (c : Char) : Bool := '0' ≤ c && c ≤ '9'

/-- A character of a comment: no control character but the tab. -/
def isCommentChar (c : Char) : Bool := c == '\t' || (0x20 ≤ c.toNat && c.toNat != 0x7f)

/-- A character that stands for itself in a string with escapes. -/
def isBasicChar (c : Char) : Bool := isCommentChar c && c != '"' && c != '\\'

/-- A character of a string without escapes. -/
def isLiteralChar (c : Char) : Bool := isCommentChar c && c != '\''

/-- A character of a key without quotes. -/
def isKeyChar (c : Char) : Bool :=
  isDigit c || ('a' ≤ c && c ≤ 'z') || ('A' ≤ c && c ≤ 'Z') || c == '-' || c == '_'

/-- Passes over blanks. -/
def blanks : Parse Unit := do
  let _ ← takeWhile isBlank

/-- Passes over a comment, if one comes next. -/
def comment : Parse Unit := do
  if (← peek) == some '#' then
    let _ ← takeWhile isCommentChar

/-- Passes over the end of a line, if it comes next. -/
def newline? : Parse Bool := do
  if ← bumpIf "\n" then return true
  bumpIf "\r\n"

/-- Passes over what may follow on a line, and over its end. -/
def lineEnd : Parse Unit := do
  blanks
  comment
  if (← get).isEmpty then return ()
  if !(← newline?) then fail "expected the end of the line"

/-- Passes over blanks, comments and newlines. -/
def gap : Nat → Parse Unit
  | 0 => return ()
  | fuel + 1 => do
    blanks
    comment
    if ← newline? then gap fuel

/-- The value of a digit in base sixteen. -/
def hexValue? (c : Char) : Option Nat :=
  if '0' ≤ c && c ≤ '9' then some (c.toNat - 48)
  else if 'a' ≤ c && c ≤ 'f' then some (c.toNat - 87)
  else if 'A' ≤ c && c ≤ 'F' then some (c.toNat - 55)
  else none

/-- The character whose code so many digits write. -/
def codeEscape (digits : Nat) : Parse Char := do
  let cs := (← get).take digits
  let n ← cs.foldlM (fun n c => match hexValue? c with
    | some d => return n * 16 + d
    | none => fail "expected a hexadecimal digit") 0
  if cs.length != digits then fail "expected a hexadecimal digit"
  drop digits
  if h : n.isValidChar then return Char.ofNatAux n h else fail "no such character"

/-- The character that an escape stands for, behind the backslash. -/
def escape : Parse Char := do
  let c ← peek
  drop 1
  match c with
  | some 'b' => return '\x08'
  | some 't' => return '\t'
  | some 'n' => return '\n'
  | some 'f' => return '\x0c'
  | some 'r' => return '\r'
  | some '"' => return '"'
  | some '\\' => return '\\'
  | some 'u' => codeEscape 4
  | some 'U' => codeEscape 8
  | _ => fail "unknown escape"

/-- Reads a string with escapes up to its quote. -/
def basicString : Nat → Parse (List Char)
  | 0 => fail "unterminated string"
  | fuel + 1 => do
    let plain ← takeWhile isBasicChar
    if ← bumpIf "\"" then return plain
    if ← bumpIf "\\" then
      let c ← escape
      return plain ++ c :: (← basicString fuel)
    fail "unterminated string"

/-- Reads a string without escapes up to its quote. -/
def literalString : Parse (List Char) := do
  let plain ← takeWhile isLiteralChar
  expect "'"
  return plain

/-- Reads the quotes at the end of a string over several lines: three
close it, and up to two in front of them belong to it. -/
def closingQuotes (quote : Char) : Parse (Option (List Char)) := do
  let run := (← get).takeWhile (· == quote)
  if run.length < 3 then return none
  let own := min (run.length - 3) 2
  drop (own + 3)
  return some (List.replicate own quote)

/-- Passes over blanks and newlines behind a backslash that ends a line. -/
def skipLines : Nat → Parse Unit
  | 0 => return ()
  | fuel + 1 => do
    blanks
    if ← newline? then skipLines fuel

/-- Reads a string over several lines up to its closing quotes. -/
def longString (quote : Char) (escapes : Bool) : Nat → Parse (List Char)
  | 0 => fail "unterminated string"
  | fuel + 1 => do
    match ← closingQuotes quote with
    | some own => return own
    | none =>
      if ← newline? then return '\n' :: (← longString quote escapes fuel)
      match ← peek with
      | none => fail "unterminated string"
      | some c =>
        drop 1
        if c == '\\' && escapes then
          let rest := (← get).dropWhile isBlank
          if ["\n".toList, "\r\n".toList].any (·.isPrefixOf rest) then
            skipLines (rest.length + 1)
            longString quote escapes fuel
          else
            let e ← escape
            return e :: (← longString quote escapes fuel)
        else if isCommentChar c then return c :: (← longString quote escapes fuel)
        else fail "control character in a string"

/-- Reads a string of any kind. -/
def string : Parse String := do
  let fuel := (← get).length + 1
  if ← bumpIf "\"\"\"" then
    let _ ← newline?
    return String.ofList (← longString '"' true fuel)
  if ← bumpIf "'''" then
    let _ ← newline?
    return String.ofList (← longString '\'' false fuel)
  if ← bumpIf "\"" then return String.ofList (← basicString fuel)
  expect "'"
  return String.ofList (← literalString)

/-- Reads one piece of a key. -/
def keyPiece : Parse String := do
  let fuel := (← get).length + 1
  if ← bumpIf "\"" then return String.ofList (← basicString fuel)
  if ← bumpIf "'" then return String.ofList (← literalString)
  let plain ← takeWhile isKeyChar
  if plain.isEmpty then fail "expected a key"
  return String.ofList plain

/-- How deeply keys and values may nest. -/
def nestingLimit : Nat := 79

/-- Reads the pieces of a key, with dots between them. -/
def keyPieces : Nat → Parse (List String)
  | 0 => fail "key is too long"
  | fuel + 1 => do
    blanks
    let piece ← keyPiece
    blanks
    if ← bumpIf "." then return piece :: (← keyPieces fuel)
    else return [piece]

/-- Reads a key: all pieces but the last, and the last. -/
def key : Parse (List String × String) := do
  let pieces ← keyPieces nestingLimit
  return (pieces.dropLast, pieces.getLastD "")

end Parse

end ScriptMatrix.Toml
