import ScriptMatrix.Unicode.Age
import ScriptMatrix.Unicode.Break
import ScriptMatrix.Unicode.Category
import ScriptMatrix.Unicode.Property
import ScriptMatrix.Unicode.Script

/-!
# `ScriptMatrix.Unicode.Lookup`: sets of characters by name

A name is read without regard to case, spaces, hyphens and underscores,
and to a leading `is`. Alone it names a property, a category or a script.
With a value it names something that characters have one of: a category,
a script, the version they came with, or a part in dividing text.
-/

set_option autoImplicit false

namespace ScriptMatrix.Unicode

/-- A name as tables have it. -/
def normalName (name : String) : String :=
  let cs := name.toList
  let strip := cs.drop 2
  let lower := fun (l : List Char) =>
    (l.filter fun c => c.toNat ≤ 0x7f && c != ' ' && c != '_' && c != '-').map Char.toLower
  let hasIs := (cs.take 2).map Char.toLower == ['i', 's']
  if hasIs then
    let rest := lower strip
    if rest == ['c'] then "isc" else String.ofList rest
  else String.ofList (lower cs)

/-- The short names that are both a category and a property: a set has the
category's meaning. -/
def categoryFirst : List String := ["cf", "sc", "lc"]

/-- The set that a single name stands for. -/
def byName? (name : String) : Option CharSet :=
  let n := normalName name
  let property := if categoryFirst.contains n then none else Property.find? n
  match property with
  | some s => some s
  | none =>
    match Category.find? n with
    | some s => some s
    | none => Script.find? n

/-- What characters have one of: the names, and the set for a value. -/
def valued : List (List String × (String → Option CharSet)) := [
  (["gc", "generalcategory"], Category.find?),
  (["sc", "script"], Script.find?),
  (["scx", "scriptextensions"], Script.findExtended?),
  (["age"], Age.find?),
  (["gcb", "graphemeclusterbreak"], Break.grapheme.find?),
  (["wb", "wordbreak"], Break.word.find?),
  (["sb", "sentencebreak"], Break.sentence.find?)]

/-- The set of the characters for which something has a value. -/
def byValue? (name value : String) : Option CharSet := do
  let n := normalName name
  let (_, find?) ← valued.find? fun e => e.1.contains n
  find? (normalName value)

/-- Decimal digits of any script. -/
def digits : CharSet := Category.ofShortNames ["nd"]

/-- Unicode's white space. -/
def blanks : CharSet := (Property.find? "whitespace").getD .empty

/-- Letters and what else is counted as alphabetic. -/
def alphabetic : CharSet := (Property.find? "alphabetic").getD .empty

/-- The characters of words: alphabetic ones, marks, digits, connectors
and joiners. -/
def wordChars : CharSet :=
  (alphabetic.union (Category.ofShortNames ["mn", "mc", "me", "nd", "pc"])).union
    ((Property.find? "joincontrol").getD .empty)

/-- Alphabetic characters and numbers of any kind. -/
def alphanumeric : CharSet := alphabetic.union (Category.ofShortNames ["nd", "nl", "no"])

end ScriptMatrix.Unicode
