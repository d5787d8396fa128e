import ScriptMatrix.Sandbox.Shell.Parameter

/-!
# `ScriptMatrix.Sandbox.Shell.Field`: from characters to fields

An expanded word is a row of glyphs: characters, of which each knows
whether it was written, quoted, or came from a value. The row is split into
fields at separators that came from values, and a field with a pattern in
it stands for the files that match.
-/

set_option autoImplicit false

namespace ScriptMatrix.Sandbox.Shell

/-- A character of an expanded word, or what stands between them. -/
inductive Glyph where
  /-- Written without quotes. -/
  | written (c : Char)
  /-- From a value, without quotes. -/
  | value (c : Char)
  | quoted (c : Char)
  /-- A place where there is a field, even if it is empty. -/
  | mark
  /-- A place where one field ends and another one begins. -/
  | gap
  deriving Repr, DecidableEq

namespace Glyph

/-- The glyphs of a value. -/
def ofValue (quoted : Bool) (cs : Chars) : List Glyph :=
  cs.map fun c => if quoted then .quoted c else .value c

/-- A written glyph as one of a value. -/
def loosen : Glyph → Glyph
  | .written c => .value c
  | g => g

/-- The text of glyphs that are not split. -/
def text (gs : List Glyph) : Chars :=
  gs.filterMap fun
    | .written c | .value c | .quoted c => some c
    | .mark => none
    | .gap => some ' '

/-- The pattern of glyphs that are not split. -/
def pattern (gs : List Glyph) : List GlobChar :=
  gs.filterMap fun
    | .written c | .value c => some (c, false)
    | .quoted c => some (c, true)
    | .mark => none
    | .gap => some (' ', true)

/-- The replacement of glyphs, in which a sign stands for what has been
matched. -/
def replacement : List Glyph → List Substitute
  | .written '\\' :: .written '&' :: rest => .char '&' :: replacement rest
  | .value '\\' :: .value '&' :: rest => .char '&' :: replacement rest
  | .value '\\' :: .value '\\' :: rest => .char '\\' :: replacement rest
  | .written '&' :: rest | .value '&' :: rest => .hit :: replacement rest
  | .written c :: rest | .value c :: rest | .quoted c :: rest => .char c :: replacement rest
  | .gap :: rest => .char ' ' :: replacement rest
  | .mark :: rest => replacement rest
  | [] => []

end Glyph

/-- The characters that separate fields. -/
structure Separators where
  /-- Of which any number counts as one. -/
  blanks : Chars
  /-- Of which each counts. -/
  others : Chars

/-- The separators of a text; blanks are those that are white space. -/
def Separators.ofChars (cs : Chars) : Separators :=
  let isBlank := fun (c : Char) => c == ' ' || c == '\t' || c == '\n'
  ⟨cs.filter isBlank, cs.filter (!isBlank ·)⟩

/-- The state of a split: the field that is being read, backwards; whether
blanks have ended the one before it; and the fields before, backwards. -/
structure Split where
  field : Option (List GlobChar) := none
  ended : Bool := false
  before : List (List GlobChar) := []

namespace Split

/-- Adds a character to the field. -/
def add (s : Split) (c : GlobChar) : Split :=
  { s with field := some (c :: s.field.getD []), ended := false }

/-- Ends the field, if there is one. -/
def close (s : Split) : Split :=
  match s.field with
  | some f => ⟨none, false, f.reverse :: s.before⟩
  | none => { s with ended := false }

/-- Passes over a glyph. A separator between blanks goes with them. -/
def step (separators : Separators) (s : Split) : Glyph → Split
  | .written c => s.add (c, false)
  | .quoted c => s.add (c, true)
  | .mark => { s with field := some (s.field.getD []), ended := false }
  | .gap => s.close
  | .value c =>
    if separators.blanks.contains c then
      match s.field with
      | some f => ⟨none, true, f.reverse :: s.before⟩
      | none => s
    else if separators.others.contains c then
      match s.field with
      | some f => ⟨none, false, f.reverse :: s.before⟩
      | none => if s.ended then { s with ended := false } else { s with before := [] :: s.before }
    else s.add (c, false)

end Split

/-- The fields of glyphs. -/
def fieldsOf (separators : Separators) (gs : List Glyph) : List (List GlobChar) :=
  (gs.foldl (Split.step separators) {}).close.before.reverse

/-! ### Files that match -/

/-- The parts of a pattern between slashes. -/
def patternParts (cs : List GlobChar) : List (List GlobChar) :=
  cs.foldr (fun c parts =>
    if c.1 == '/' then [] :: parts
    else match parts with
      | p :: ps => (c :: p) :: ps
      | [] => [[c]]) [[]]

/-- The characters of a pattern in which every one stands for itself. -/
def plainText (groups : Bool) (cs : List GlobChar) : Chars :=
  (Glob.ofChars groups cs).map fun
    | .char c => c
    | _ => '?'

/-- What decides which names match. -/
structure NameRules where
  groups : Bool
  fold : Bool
  /-- Whether a dot at the front of a name has to be written. -/
  hidesDots : Bool
  /-- Whether two stars go through directories. -/
  deep : Bool
  /-- Whether a directory and the one above it have names that match. -/
  dots : Bool

/-- The names in a directory. -/
def namesIn (t : Tree) (place : Location) : List String :=
  t.entries.filterMap fun e =>
    if e.1.length == place.length + 1 && place.isPrefixOf e.1 then e.1.getLast? else none

/-- Whether a name matches a part of a pattern. -/
def nameFits (rules : NameRules) (part : List GlobChar) (name : String) : Bool :=
  let cs := ofText name
  let dotted := cs.head? == some '.'
  let p := Glob.ofChars rules.groups part
  let writesDot := match p with
    | .char '.' :: _ => true
    | _ => false
  (!dotted || !rules.hidesDots || writesDot) && Glob.fits rules.fold p cs

/-- The paths below a place that match parts of a pattern, each with the
text that leads there. -/
def matching (t : Tree) (rules : NameRules) : Nat → Location → Chars → List (List GlobChar) →
    List Chars
  | 0, _, _, _ => []
  | _, _, sofar, [] => [sofar]
  | fuel + 1, place, sofar, part :: rest =>
    let isLast := rest.isEmpty
    let follow := fun (path : Chars) =>
      if isLast then [path] else path ++ ['/'] |> fun dir =>
        match t.walk (pathOf path) with
        | .ok next =>
          if t.get? next == some .directory then matching t rules fuel next dir rest else []
        | .error _ => []
    let isActive := Glob.isActive (Glob.ofChars rules.groups part)
    if part.isEmpty then
      if isLast then [sofar] else matching t rules fuel place (sofar ++ ['/']) rest
    else if !isActive then
      let path := sofar ++ plainText rules.groups part
      if isLast then (if (t.find? (pathOf path)).isSome then [path] else []) else follow path
    else if rules.deep && part == [('*', false), ('*', false)] then
      let here := if isLast then (if sofar.isEmpty then [] else [sofar])
        else matching t rules fuel place sofar rest
      let below := (namesIn t place).flatMap fun name =>
        let path := sofar ++ ofText name
        if ofText name |>.head? |> (· == some '.') then []
        else if t.get? (place ++ [name]) == some .directory then
          matching t rules fuel (place ++ [name]) (path ++ ['/']) (part :: rest)
        else if isLast then [path] else []
      here ++ below
    else
      let own : List String := if rules.dots then [".", ".."] else []
      let names := (own ++ namesIn t place).filter (nameFits rules part)
      names.flatMap fun name => follow (sofar ++ ofText name)

/-- Whether one text comes before another, byte by byte. -/
def comesBefore : Chars → Chars → Bool
  | _, [] => false
  | [], _ :: _ => true
  | a :: as, b :: bs => a.toNat < b.toNat || (a == b && comesBefore as bs)

/-- Texts in order. -/
def inOrder (texts : List Chars) : List Chars := texts.mergeSort fun a b => !comesBefore b a

/-- The paths that match a pattern, in order. -/
def pathsMatching (t : Tree) (rules : NameRules) (cs : List GlobChar) : List Chars :=
  let parts := patternParts cs
  let (place, sofar, parts) := match parts with
    | [] :: rest => (([] : Location), ['/'], rest.dropWhile List.isEmpty)
    | _ => (t.current, [], parts)
  let fuel := parts.length + 1 + t.entries.length
  inOrder (matching t rules fuel place sofar parts)

end ScriptMatrix.Sandbox.Shell
