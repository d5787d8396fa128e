import ScriptMatrix.Text.Utf8
import ScriptMatrix.Yaml.Token
import ScriptMatrix.Yaml.Token.Scalar

/-!
# `ScriptMatrix.Yaml.Token.Tag`: reading names, tags and directives
-/

set_option autoImplicit false

namespace ScriptMatrix.Yaml

/-- Reads the name of an anchor or alias; the cursor is on its mark. -/
def readAnchorName (c : Cursor) : Except Error (String × Cursor) :=
  let (name, c₁) := (c.skip 1).span isWordChar
  let closed := c₁.blankOrEndAt 0
    || c₁.peek.any fun x => ['?', ':', ',', ']', '}', '%', '@', Char.ofNat 96].contains x
  if name.isEmpty || !closed then
    c.fail "did not find expected alphabetic or numeric character"
  else .ok (String.ofList name, c₁)

/-- A character that may stand in a tag; within angle brackets these are
a few more. -/
def isTagChar (verbatim : Bool) (x : Char) : Bool :=
  isWordChar x
    || [';', '/', '?', ':', '@', '&', '=', '+', '$', '.', '%', '!', '~', '*', '\'', '(',
        ')'].contains x
    || (verbatim && [',', '[', ']'].contains x)

/-- The octet of a percent escape in front. -/
def readOctet? (c : Cursor) : Option (UInt8 × Cursor) :=
  match c.rest with
  | '%' :: a :: b :: _ => do
    let n ← hexNumber? [a, b]
    return (UInt8.ofNat n, c.skip 3)
  | _ => none

/-- Reads so many continuation octets. -/
def readContinuations : Nat → Cursor → Except Error (Bytes × Cursor)
  | 0, c => .ok ([], c)
  | n + 1, c =>
    match readOctet? c with
    | none => c.fail "did not find URI escaped octet"
    | some (b, c₁) =>
      if !Text.isContinuation b then c.fail "found an incorrect trailing UTF-8 octet"
      else do
        let (bs, c₂) ← readContinuations n c₁
        return (b :: bs, c₂)

/-- Reads the percent escapes of one character. The octets fit together as
a sequence by its length; whether that sequence is well-formed is not asked. -/
def readEscapedChar (c : Cursor) : Except Error (Bytes × Cursor) :=
  match readOctet? c with
  | none => c.fail "did not find URI escaped octet"
  | some (b, c₁) =>
    let more : Option Nat :=
      if b < 0x80 then some 0
      else if b < 0xc0 then none
      else if b < 0xe0 then some 1
      else if b < 0xf0 then some 2
      else if b < 0xf8 then some 3
      else none
    match more with
    | none => c.fail "found an incorrect leading UTF-8 octet"
    | some n => do
      let (bs, c₂) ← readContinuations n c₁
      return (b :: bs, c₂)

/-- Reads the characters of a tag. -/
def readTagChars (verbatim : Bool) : Nat → Cursor → Bytes → Except Error (Bytes × Cursor)
  | 0, c, acc => .ok (acc, c)
  | fuel + 1, c, acc =>
    match c.peek with
    | none => .ok (acc, c)
    | some x =>
      if !isTagChar verbatim x then .ok (acc, c)
      else if x == '%' then do
        let (bs, c₁) ← readEscapedChar c
        readTagChars verbatim fuel c₁ (acc ++ bs)
      else readTagChars verbatim fuel (c.skip 1) (acc ++ String.utf8EncodeChar x)

/-- Reads the characters of a tag, of which there has to be one unless
text comes before. A zero octet ends what the tag says. -/
def readTagText (verbatim : Bool) (before : List Char) (c : Cursor) :
    Except Error (Bytes × Cursor) := do
  let (bs, c₁) ← readTagChars verbatim (c.rest.length + 1) c []
  if before.isEmpty && bs.isEmpty then c.fail "did not find expected tag URI"
  else return ((Text.encode (String.ofList (before.drop 1)) ++ bs).takeWhile (· != 0), c₁)

/-- Reads `!`, word characters, and a `!` behind them if there is one. -/
def readTagHandle (c : Cursor) : Except Error (List Char × Cursor) :=
  if !c.at? '!' then c.fail "did not find expected '!'"
  else
    let (word, c₁) := (c.skip 1).span isWordChar
    if c₁.at? '!' then .ok ('!' :: word ++ ['!'], c₁.skip 1) else .ok ('!' :: word, c₁)

/-- Reads a tag as handle and suffix. A verbatim tag has no handle, and
neither has the tag `!`. -/
def readTag (flow : Bool) (c : Cursor) : Except Error (TokenKind × Cursor) := do
  let ((handle, suffix), c₁) ←
    if c.peekAt 1 == some '<' then do
      let (suffix, c₁) ← readTagText true [] (c.skip 2)
      if !c₁.at? '>' then c₁.fail "did not find the expected '>'"
      pure ((([], suffix) : List Char × Bytes), c₁.skip 1)
    else do
      let (handle, c₁) ← readTagHandle c
      if handle.length > 1 && handle.getLast? == some '!' then
        let (suffix, c₂) ← readTagText false [] c₁
        pure ((handle, suffix), c₂)
      else
        let (suffix, c₂) ← readTagText false handle c₁
        pure (if suffix.isEmpty then ([], Text.encode "!") else (['!'], suffix), c₂)
  if !(flow && c₁.at? ',') && !c₁.blankOrEndAt 0 then
    c₁.fail "did not find expected whitespace or line break"
  return (.tag (String.ofList handle) suffix, c₁)

/-- Reads the digits of a version number, nine at most. -/
def readVersionNumber (c : Cursor) : Except Error (Nat × Cursor) :=
  let (digits, c₁) := c.span Char.isDigit
  if digits.isEmpty then c.fail "did not find expected version number"
  else if 9 < digits.length then c.fail "found extremely long version number"
  else .ok (digits.foldl (fun n d => n * 10 + (d.toNat - 48)) 0, c₁)

/-- Reads the version of a version directive. -/
def readVersion (c : Cursor) : Except Error (TokenKind × Cursor) := do
  let (major, c₁) ← readVersionNumber (c.span isSpace).2
  if !c₁.at? '.' then c₁.fail "did not find expected digit or '.' character"
  let (minor, c₂) ← readVersionNumber (c₁.skip 1)
  return (.versionDirective major minor, c₂)

/-- Reads the handle and the expansion of a tag directive. -/
def readTagDirective (c : Cursor) : Except Error (TokenKind × Cursor) := do
  let (handle, c₁) ← readTagHandle (c.span isSpace).2
  if handle.length > 1 && handle.getLast? != some '!' then
    c₁.fail "did not find expected '!'"
  if !c₁.peek.any isSpace then c₁.fail "did not find expected whitespace"
  let (expansion, c₂) ← readTagText true [] (c₁.span isSpace).2
  if !c₂.blankOrEndAt 0 then c₂.fail "did not find expected whitespace or line break"
  return (.tagDirective (String.ofList handle) expansion, c₂)

/-- Reads a directive line; the cursor is on its percent sign. -/
def readDirective (c : Cursor) : Except Error (TokenKind × Cursor) := do
  let (name, c₁) := (c.skip 1).span isWordChar
  if name.isEmpty then c.fail "could not find expected directive name"
  if !c₁.blankOrEndAt 0 then c₁.fail "found unexpected non-alphabetical character"
  let (kind, c₂) ←
    if name == "YAML".toList then readVersion c₁
    else if name == "TAG".toList then readTagDirective c₁
    else c.fail "found unknown directive name"
  let c₃ := (c₂.span isSpace).2
  let c₄ := if c₃.at? '#' then (c₃.span fun x => !isBreak x).2 else c₃
  if !c₄.breakOrEndAt 0 then c₄.fail "did not find expected comment or line break"
  return (kind, c₄.skipBreak)

end ScriptMatrix.Yaml
