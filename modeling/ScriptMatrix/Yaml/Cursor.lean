import ScriptMatrix.Yaml.Error

/-!
# `ScriptMatrix.Yaml.Cursor`: a place in the text

A cursor is the rest of the text together with where it begins. Columns
and indices count characters; a carriage return and line feed in a row
are one line break.
-/

set_option autoImplicit false

namespace ScriptMatrix.Yaml

/-- A space or a tab. -/
def isSpace (c : Char) : Bool := c == ' ' || c == '\t'

/-- The next-line character. -/
def nextLine : Char := Char.ofNat 0x85

/-- The line separator. -/
def lineSeparator : Char := Char.ofNat 0x2028

/-- The paragraph separator. -/
def paragraphSeparator : Char := Char.ofNat 0x2029

/-- The byte order mark. -/
def byteOrderMark : Char := Char.ofNat 0xfeff

/-- A character that ends a line. -/
def isBreak (c : Char) : Bool :=
  c == '\n' || c == '\r' || c == nextLine || c == lineSeparator || c == paragraphSeparator

/-- A letter, digit, underscore or hyphen: what names are made of. -/
def isWordChar (c : Char) : Bool := c.isAlphanum || c == '_' || c == '-'

/-- Whether the text may hold the character at all. -/
def isAllowed (c : Char) : Bool :=
  let n := c.toNat
  n == 0x09 || n == 0x0a || n == 0x0d || (0x20 ≤ n && n ≤ 0x7e) || n == 0x85
    || (0xa0 ≤ n && n ≤ 0xfffd) || 0x10000 ≤ n

/-- A place in the text. -/
structure Cursor where
  rest : List Char
  /-- How many bytes come before it. -/
  index : Nat
  line : Nat
  column : Nat
  deriving Repr

namespace Cursor

/-- The beginning of a text. -/
def start (cs : List Char) : Cursor := ⟨cs, 0, 0, 0⟩

/-- The character at the cursor; `none` at the end. -/
def peek (c : Cursor) : Option Char := c.rest.head?

/-- The character `n` places on. -/
def peekAt (c : Cursor) (n : Nat) : Option Char := c.rest[n]?

/-- Whether the text goes on with the given character. -/
def at? (c : Cursor) (x : Char) : Bool := c.peek == some x

/-- The end of the text. -/
def atEnd (c : Cursor) : Bool := c.rest.isEmpty

/-- Whether a line break or the end comes `n` places on. -/
def breakOrEndAt (c : Cursor) (n : Nat) : Bool := (c.peekAt n).all isBreak

/-- Whether a space, tab, line break or the end comes `n` places on. -/
def blankOrEndAt (c : Cursor) (n : Nat) : Bool := (c.peekAt n).all fun x => isSpace x || isBreak x

/-- The place `n` characters on in the same line, or the end. -/
def skip (c : Cursor) : Nat → Cursor
  | 0 => c
  | n + 1 =>
    match c.rest with
    | [] => c
    | x :: rest => skip ⟨rest, c.index + x.utf8Size, c.line, c.column + 1⟩ n

/-- The characters from here on that satisfy `p`, and the place after
them; `p` holds of no line break. -/
def span (c : Cursor) (p : Char → Bool) : List Char × Cursor :=
  let taken := c.rest.takeWhile p
  (taken, c.skip taken.length)

/-- The place at the beginning of the next line, and the line break as
content has it: every break but the two separators becomes a line feed.
Away from a break nothing happens. -/
def readBreak (c : Cursor) : List Char × Cursor :=
  match c.rest with
  | '\r' :: '\n' :: rest => (['\n'], ⟨rest, c.index + 2, c.line + 1, 0⟩)
  | x :: rest =>
    if x == lineSeparator || x == paragraphSeparator then
      ([x], ⟨rest, c.index + x.utf8Size, c.line + 1, 0⟩)
    else if isBreak x then (['\n'], ⟨rest, c.index + x.utf8Size, c.line + 1, 0⟩)
    else ([], c)
  | [] => ([], c)

/-- The place after the line break, if there is one here. -/
def skipBreak (c : Cursor) : Cursor := c.readBreak.2

/-- Three times the given character at the beginning of a line with a
blank or the end behind: a document mark. -/
def atMark (c : Cursor) (x : Char) : Bool :=
  c.column == 0 && c.rest.take 3 == [x, x, x] && c.blankOrEndAt 3

/-- Either document mark. -/
def atDocumentMark (c : Cursor) : Bool := c.atMark '-' || c.atMark '.'

/-- A grammar error here. -/
def fail {α : Type} (c : Cursor) (reason : String) : Except Error α :=
  .error (.malformed (c.line + 1) reason)

end Cursor

end ScriptMatrix.Yaml
