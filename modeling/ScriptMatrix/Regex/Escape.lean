import ScriptMatrix.Regex.Pattern
import ScriptMatrix.Regex.Scan

/-!
# `ScriptMatrix.Regex.Escape`: what a backslash begins

Behind a backslash stand characters by code, classes and properties,
conditions, control characters, and characters that would mean something
else without it. Any ASCII character that is neither letter nor digit may
be escaped, except the angle brackets, which are word boundaries.
-/

set_option autoImplicit false

namespace ScriptMatrix.Regex

namespace Parse

/-- The value of a digit in base sixteen. -/
def hexValue? (c : Char) : Option Nat :=
  if '0' ≤ c && c ≤ '9' then some (c.toNat - 48)
  else if 'a' ≤ c && c ≤ 'f' then some (c.toNat - 87)
  else if 'A' ≤ c && c ≤ 'F' then some (c.toNat - 55)
  else none

/-- The character with a code. -/
def ofCode (n : Nat) : Parse Char :=
  if h : n.isValidChar then return Char.ofNatAux n h else throw .badHexadecimal

/-- The number that digits in base sixteen write. -/
def hexNumber (digits : List Char) : Parse Nat :=
  digits.foldlM (fun n c => match hexValue? c with
    | some d => return n * 16 + d
    | none => throw .badHexadecimal) 0

/-- Takes so many digits of a code. -/
def takeDigits : Nat → Parse (List Char)
  | 0 => return []
  | n + 1 => do
    let c ← char .badHexadecimal
    bumpSpace
    return c :: (← takeDigits n)

/-- Reads a character by its code behind `x`, `u` or `U`: two, four or
eight digits, or any number of them in braces. -/
def codeEscape (kind : Char) : Parse Letter := do
  let c ← nextChar .badEscape
  if c == '\x7b' then
    bumpSpace
    let digits ← takeWhile (· != '\x7d')
    let _ ← char .badEscape
    bumpSpace
    if digits.isEmpty then throw .badHexadecimal
    return ⟨← ofCode (← hexNumber digits), false⟩
  else
    let digits ← takeDigits (if kind == 'x' then 2 else if kind == 'u' then 4 else 8)
    return ⟨← ofCode (← hexNumber digits), kind == 'x'⟩

/-- Splits a text at the first of the given one: what stands in front of
it and behind it. -/
def splitAt? (separator : List Char) : List Char → Option (List Char × List Char)
  | [] => none
  | c :: cs =>
    if separator.isPrefixOf (c :: cs) then some ([], (c :: cs).drop separator.length)
    else (splitAt? separator cs).map fun (front, back) => (c :: front, back)

/-- The property that the text in braces names, and whether it is to be
absent: a name alone, or a name and a value, which may be unequal. -/
def propertyName (text : List Char) : PropertyName × Bool :=
  let valued := fun (separator : List Char) =>
    (splitAt? separator text).map fun (name, value) =>
      PropertyName.value (String.ofList name) (String.ofList value)
  match valued ['!', '='] with
  | some p => (p, true)
  | none => ([[':'], ['=']].findSome? valued |>.getD (.single (String.ofList text)), false)

/-- Reads a property behind `p` or `P`: one letter, or a name in braces. -/
def propertyEscape (negated : Bool) : Parse Pattern := do
  let c ← nextChar .badEscape
  if c == '\x7b' then
    bumpSpace
    let text ← takeWhile (· != '\x7d')
    let _ ← char .badEscape
    bump
    let (name, absent) := propertyName text
    return .property name (negated != absent)
  else if c == '\\' then throw (.unknownProperty "\\")
  else
    bumpSpace
    return .property (.single (String.ofList [c])) negated

/-- A character that names of word boundaries consist of. -/
def isBoundaryChar (c : Char) : Bool :=
  c == '-' || ('a' ≤ c && c ≤ 'z') || ('A' ≤ c && c ≤ 'Z')

/-- The word boundary with a name. -/
def boundaryOf (name : List Char) : Parse Anchor :=
  match String.ofList name with
  | "start" => return .wordStart
  | "end" => return .wordEnd
  | "start-half" => return .wordStartHalf
  | "end-half" => return .wordEndHalf
  | _ => throw .badWordBoundary

/-- Reads what may stand in braces behind `\b`. Braces that do not begin
with a name are left to be a repetition. -/
def boundaryEscape : Parse Anchor := do
  if (← peek) != some '\x7b' then return .word
  let before ← get
  let c ← nextChar .badWordBoundary
  if !isBoundaryChar c then
    set before
    return .word
  let name ← takeWhile isBoundaryChar
  if (← peek) != some '\x7d' then throw .badWordBoundary
  bump
  boundaryOf name

/-- The control characters with a letter of their own. -/
def controlOf? (c : Char) : Option Char :=
  [('a', '\x07'), ('f', '\x0c'), ('t', '\t'), ('n', '\n'), ('r', '\r'), ('v', '\x0b')].lookup c

/-- A character that stands for itself behind a backslash. -/
def isEscapable (c : Char) : Bool :=
  c.toNat ≤ 0x7f && c != '<' && c != '>' &&
    !(('0' ≤ c && c ≤ '9') || ('a' ≤ c && c ≤ 'z') || ('A' ≤ c && c ≤ 'Z'))

/-- Reads a backslash and what belongs to it. -/
def escape : Parse Pattern := do
  bump
  let c ← char .badEscape
  if '0' ≤ c && c ≤ '9' then throw .backReference
  match c with
  | 'x' | 'u' | 'U' => return .letter (← codeEscape c)
  | 'p' => propertyEscape false
  | 'P' => propertyEscape true
  | _ =>
    bump
    if isEscapable c then return .letter ⟨c, false⟩
    match controlOf? c with
    | some control => return .letter ⟨control, false⟩
    | none =>
      match c with
      | 'd' => return .shorthand .digit false
      | 'D' => return .shorthand .digit true
      | 's' => return .shorthand .blank false
      | 'S' => return .shorthand .blank true
      | 'w' => return .shorthand .word false
      | 'W' => return .shorthand .word true
      | 'A' => return .anchor .textStart
      | 'z' => return .anchor .textEnd
      | 'b' => return .anchor (← boundaryEscape)
      | 'B' => return .anchor .notWord
      | '<' => return .anchor .wordStart
      | '>' => return .anchor .wordEnd
      | _ => throw .badEscape

end Parse

end ScriptMatrix.Regex
