import ScriptMatrix.Unicode.Lookup

/-!
# `ScriptMatrix.Regex.Look`: conditions on places in a text

A place of a text lies between two of its characters, or at an end. A
condition looks at the characters on both sides and takes none of them.
-/

set_option autoImplicit false

namespace ScriptMatrix.Regex

open ScriptMatrix.Unicode (CharSet)

/-- The condition on a place between two characters. -/
inductive Look where
  | textStart
  | textEnd
  | lineStart
  | lineEnd
  /-- As `lineStart`, where `\r` and `\r\n` end lines as well. -/
  | lineStartAny
  /-- As `lineEnd`, where `\r` and `\r\n` end lines as well. -/
  | lineEndAny
  | word (unicode : Bool)
  | notWord (unicode : Bool)
  | wordStart (unicode : Bool)
  | wordEnd (unicode : Bool)
  | wordStartHalf (unicode : Bool)
  | wordEndHalf (unicode : Bool)
  deriving Repr, DecidableEq

/-- The characters on both sides of a place. -/
structure Neighbours where
  before : Option Char
  after : Option Char
  deriving Repr, DecidableEq

/-- The places of a text with a character in front. -/
def placesFrom (before : Option Char) : List Char → List Neighbours
  | [] => [⟨before, none⟩]
  | c :: cs => ⟨before, some c⟩ :: placesFrom (some c) cs

/-- The places of a text, one more than it has characters. -/
def places (text : List Char) : List Neighbours := placesFrom none text

/-- The ASCII characters of words. -/
def asciiWord : CharSet := ⟨[(48, 57), (65, 90), (95, 95), (97, 122)]⟩

/-- Whether a character stands on one side and belongs to a word. -/
def isWordChar (unicode : Bool) : Option Char → Bool
  | none => false
  | some c => asciiWord.has c || (unicode && 0x7f < c.toNat && Unicode.wordChars.has c)

/-- Whether a place satisfies a condition. -/
def Look.holds (p : Neighbours) : Look → Bool
  | .textStart => p.before.isNone
  | .textEnd => p.after.isNone
  | .lineStart => p.before.isNone || p.before == some '\n'
  | .lineEnd => p.after.isNone || p.after == some '\n'
  | .lineStartAny => p.before.isNone || p.before == some '\n'
      || (p.before == some '\r' && p.after != some '\n')
  | .lineEndAny => p.after.isNone || p.after == some '\r'
      || (p.after == some '\n' && p.before != some '\r')
  | .word u => isWordChar u p.before != isWordChar u p.after
  | .notWord u => isWordChar u p.before == isWordChar u p.after
  | .wordStart u => !isWordChar u p.before && isWordChar u p.after
  | .wordEnd u => isWordChar u p.before && !isWordChar u p.after
  | .wordStartHalf u => !isWordChar u p.before
  | .wordEndHalf u => !isWordChar u p.after

end ScriptMatrix.Regex
