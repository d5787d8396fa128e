import ScriptMatrix.Path
import ScriptMatrix.Text.Utf8

/-!
# `ScriptMatrix.Sandbox.Chars`: text as scripts see it

Scripts and the programs they start work on bytes. Here a byte is the
character of the same number, so text is a list of characters none of
which is above 255.
-/

set_option autoImplicit false

namespace ScriptMatrix.Sandbox

/-- Characters that each stand for one byte. -/
abbrev Chars := List Char

/-- The bytes that characters stand for. -/
def toBytes (cs : Chars) : Bytes := cs.map fun c => UInt8.ofNat c.toNat

/-- The characters that stand for bytes. -/
def ofBytes (b : Bytes) : Chars := b.map fun x => Char.ofNat x.toNat

/-- The text in bytes as characters. -/
def ofText (s : String) : Chars := ofBytes (Text.encode s)

/-- The path that characters write. -/
def pathOf (cs : Chars) : Path := ⟨Text.decodeLossy (toBytes cs)⟩

/-- The text that characters write. -/
def textOf (cs : Chars) : String := Text.decodeLossy (toBytes cs)

/-- The digits of a number. -/
def digits (n : Nat) : Chars := (toString n).toList

/-- The digits of an integer with its sign. -/
def signedDigits (i : Int) : Chars := (toString i).toList

/-- A decimal digit. -/
def isDigit (c : Char) : Bool := '0' ≤ c && c ≤ '9'

/-- A letter of the Latin alphabet. -/
def isLetter (c : Char) : Bool := ('a' ≤ c && c ≤ 'z') || ('A' ≤ c && c ≤ 'Z')

/-- A character that a name may begin with. -/
def isNameStart (c : Char) : Bool := isLetter c || c == '_'

/-- A character that a name may go on with. -/
def isNameChar (c : Char) : Bool := isNameStart c || isDigit c

/-- Whether a text is a name. -/
def isName : Chars → Bool
  | [] => false
  | c :: cs => isNameStart c && cs.all isNameChar

/-- A space or a tab. -/
def isGap (c : Char) : Bool := c == ' ' || c == '\t'

/-- White space: spaces, tabs, and the ends of lines and pages. -/
def isSpace (c : Char) : Bool := c == ' ' || ('\t' ≤ c && c ≤ '\r')

/-- The other case of a letter. -/
def toUpper (c : Char) : Char := if 'a' ≤ c && c ≤ 'z' then Char.ofNat (c.toNat - 32) else c

/-- The small letter of a capital one. -/
def toLower (c : Char) : Char := if 'A' ≤ c && c ≤ 'Z' then Char.ofNat (c.toNat + 32) else c

/-- The value of a digit in base sixteen. -/
def hexValue? (c : Char) : Option Nat :=
  if isDigit c then some (c.toNat - 48)
  else if 'a' ≤ c && c ≤ 'f' then some (c.toNat - 87)
  else if 'A' ≤ c && c ≤ 'F' then some (c.toNat - 55)
  else none

/-- The number that digits write in a base; other characters count as
nothing. -/
def numberIn (base : Nat) (cs : Chars) : Nat :=
  cs.foldl (fun n c => n * base + (hexValue? c).getD 0) 0

/-- The number that decimal digits write, if there are any and nothing
else. -/
def natural? (cs : Chars) : Option Nat :=
  if cs.isEmpty || !cs.all isDigit then none else some (numberIn 10 cs)

/-- The integer that decimal digits behind a sign write, with white space
around them. -/
def integer? (cs : Chars) : Option Int :=
  let trimmed := ((cs.dropWhile isSpace).reverse.dropWhile isSpace).reverse
  match trimmed with
  | '-' :: ds => (natural? ds).map fun n => -(n : Int)
  | '+' :: ds => (natural? ds).map fun n => (n : Int)
  | ds => (natural? ds).map fun n => (n : Int)

/-- The lines of a text, each with the newline at its end, if it has one. -/
def linesOf (cs : Chars) : List Chars :=
  let (last, lines) := cs.foldl (fun ((line, lines) : Chars × List Chars) c =>
    if c == '\n' then ([], (c :: line).reverse :: lines) else (c :: line, lines)) ([], [])
  (if last.isEmpty then lines else last.reverse :: lines).reverse

/-- The pieces between separators, always at least one. -/
def splitOn (separator : Char) (cs : Chars) : List Chars :=
  let (last, pieces) := cs.foldr (fun c ((piece, pieces) : Chars × List Chars) =>
    if c == separator then ([], piece :: pieces) else (c :: piece, pieces)) ([], [])
  last :: pieces

/-- Texts with a separator between them. -/
def joinWith (separator : Chars) (texts : List Chars) : Chars :=
  (texts.intersperse separator).flatten

/-- A text without the given one at its end, if it ends with it. -/
def dropSuffix (suffix cs : Chars) : Chars :=
  if suffix.isSuffixOf cs then cs.take (cs.length - suffix.length) else cs

end ScriptMatrix.Sandbox
