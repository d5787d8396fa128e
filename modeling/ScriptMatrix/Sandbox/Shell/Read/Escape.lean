import ScriptMatrix.Sandbox.Chars
import ScriptMatrix.Text.Utf8

/-!
# `ScriptMatrix.Sandbox.Shell.Read.Escape`: escapes that stand for characters

A backslash and what follows it can stand for one character. Scripts
write such escapes between quotes behind a dollar sign, and `echo` and
`printf` know them as well, each in its own way.
-/

set_option autoImplicit false

namespace ScriptMatrix.Sandbox.Shell

/-- Where an escape stands. -/
inductive EscapeStyle where
  /-- Between quotes behind a dollar sign. -/
  | dollar
  /-- In a format. -/
  | format
  /-- In an argument that `printf` reads; a zero may stand in front of octal
  digits. -/
  | argument
  /-- In an argument that `echo` reads; octal digits need the zero. -/
  | echoed
  /-- In a shell that knows few escapes, in a format. -/
  | plainFormat
  /-- The same in an argument. -/
  | plainArgument
  deriving Repr, DecidableEq

/-- What an escape stands for. -/
inductive Escape where
  | chars (cs : Chars)
  /-- Nothing more is to be shown. -/
  | stop
  deriving Repr, DecidableEq

/-- An octal digit. -/
def isOctal (c : Char) : Bool := '0' ≤ c && c ≤ '7'

/-- The digits at the front of a text, at most so many. -/
def digitsFront (most : Nat) (p : Char → Bool) (cs : Chars) : Chars := (cs.take most).takeWhile p

/-- The byte of a number, which is cut to its size. -/
def byteOf (n : Nat) : Char := Char.ofNat (n % 256)

/-- The escapes of one letter. -/
def letterEscapes : List (Char × Nat) :=
  [('a', 7), ('b', 8), ('e', 27), ('f', 12), ('n', 10), ('r', 13), ('t', 9), ('v', 11),
    ('\\', 92)]

/-- A number as so many digits in base sixteen at least. -/
def hexDigits (least n : Nat) : Chars :=
  let ds := (Nat.toDigits 16 n).map toUpper
  List.replicate (least - ds.length) '0' ++ ds

/-- The character with a number, if it is one of the plain ones; else it is
written as an escape. -/
def unicodeEscape (n : Nat) : Chars :=
  if n < 128 then [Char.ofNat n]
  else if n < 0x10000 then '\\' :: 'u' :: hexDigits 4 n
  else '\\' :: 'U' :: hexDigits 8 n

/-- What an escape of the extended dialect alone stands for, given its
letter and the rest. -/
def Escape.readExtended? (style : EscapeStyle) (c : Char) (rest : Chars) :
    Option (Escape × Chars) :=
  let unicode := fun (most : Nat) =>
    let ds := digitsFront most (fun d => (hexValue? d).isSome) rest
    if ds.isEmpty then none
    else some (Escape.chars (unicodeEscape (numberIn 16 ds)), rest.drop ds.length)
  let quotes := style == .dollar || style == .format
  if c == 'E' then some (.chars ['\x1b'], rest)
  else if (c == '"' || c == '\'' || c == '?') && quotes then some (.chars [c], rest)
  else if c == 'x' then
    let braced := style == .dollar && rest.head? == some '\x7b'
    let from' := if braced then rest.drop 1 else rest
    let ds := digitsFront (if braced then from'.length else 2) (fun d => (hexValue? d).isSome) from'
    if ds.isEmpty then none
    else
      let after := from'.drop ds.length
      let after := if braced && after.head? == some '\x7d' then after.drop 1 else after
      some (.chars [byteOf (numberIn 16 ds)], after)
  else if c == 'u' then unicode 4
  else if c == 'U' then unicode 8
  else if c == 'c' && style == .dollar then
    match rest with
    | d :: after =>
      some (.chars [Char.ofNat (if d == '?' then 127 else (toUpper d).toNat % 32)], after)
    | [] => none
  else none

/-- What the escape behind a backslash stands for, and the rest; it may
stand for nothing. -/
def Escape.read? (style : EscapeStyle) (cs : Chars) : Option (Escape × Chars) :=
  let octal := fun (from' : Chars) =>
    let ds := digitsFront 3 isOctal from'
    some (Escape.chars [byteOf (numberIn 8 ds)], from'.drop ds.length)
  let inArgument := style == .argument || style == .plainArgument || style == .echoed
  match cs with
  | [] => none
  | c :: rest =>
    match letterEscapes.lookup c with
    | some n => some (.chars [Char.ofNat n], rest)
    | none =>
      if c == '0' && inArgument then octal rest
      else if isOctal c && style != .echoed then octal cs
      else if c == 'c' && inArgument then some (.stop, rest)
      else if style == .plainFormat || style == .plainArgument then none
      else Escape.readExtended? style c rest

/-- A text with its escapes replaced; at a character that ends it, it is
cut. -/
def unescapeDollar : Nat → Chars → Chars
  | 0, cs => cs
  | fuel + 1, cs =>
    match cs with
    | [] => []
    | '\\' :: rest =>
      match Escape.read? .dollar rest with
      | some (.chars new, after) =>
        if new == ['\x00'] then [] else new ++ unescapeDollar fuel after
      | some (.stop, _) => []
      | none => '\\' :: (rest.take 1 ++ unescapeDollar fuel (rest.drop 1))
    | c :: rest => c :: unescapeDollar fuel rest

end ScriptMatrix.Sandbox.Shell
