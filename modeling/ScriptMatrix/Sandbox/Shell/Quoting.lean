import ScriptMatrix.Sandbox.Chars

/-!
# `ScriptMatrix.Sandbox.Shell.Quoting`: text that a script reads back

A text can be written so that a script that reads it as a word gets the
text again: with backslashes, between single or double quotes, or, if some
of its characters cannot be seen, as escapes.
-/

set_option autoImplicit false

namespace ScriptMatrix.Sandbox.Shell

/-- The characters that mean something without quotes. -/
def backslashed : Chars :=
  [' ', '\t', '\n', '!', '"', '$', '&', '\'', '(', ')', '*', ',', ';', '<', '>', '?', '[', '\\',
    ']', '^', Char.ofNat 96, '\x7b', '|', '\x7d']

/-- Whether a character can be seen. -/
def isVisible (c : Char) : Bool := ' ' ≤ c && c ≤ '~'

/-- A text as escapes behind a dollar sign. -/
def quoteDollar (cs : Chars) : Chars :=
  let octal := fun (n : Nat) => '\\' :: [n / 64, n / 8 % 8, n % 8].map fun d => Char.ofNat (48 + d)
  let one := fun (c : Char) => match c.toNat with
    | 7 => ['\\', 'a']
    | 8 => ['\\', 'b']
    | 9 => ['\\', 't']
    | 10 => ['\\', 'n']
    | 11 => ['\\', 'v']
    | 12 => ['\\', 'f']
    | 13 => ['\\', 'r']
    | 27 => ['\\', 'E']
    | 39 => ['\\', '\'']
    | 92 => ['\\', '\\']
    | n => if isVisible c then [c] else octal n
  ['$', '\''] ++ cs.flatMap one ++ ['\'']

/-- A text with backslashes. -/
def quoteBackslash (cs : Chars) : Chars :=
  if cs.isEmpty then ['\'', '\'']
  else if !cs.all isVisible then quoteDollar cs
  else
    let before := '\x00' :: cs
    (before.zip cs).flatMap fun (b, c) =>
      let isFirst := b == '\x00'
      let special := backslashed.contains c || (c == '#' && isFirst) ||
        (c == '~' && (isFirst || b == ':' || b == '='))
      if special then ['\\', c] else [c]

/-- A text between single quotes. -/
def quoteSingle (cs : Chars) : Chars :=
  if cs == ['\''] then ['\\', '\'']
  else ['\''] ++ (cs.flatMap fun c => if c == '\'' then ['\'', '\\', '\'', '\''] else [c]) ++ ['\'']

/-- A text between single quotes, or as escapes if it cannot be seen. -/
def quoteReusable (cs : Chars) : Chars :=
  if cs.all isVisible then quoteSingle cs else quoteDollar cs

/-- A text between double quotes, or as escapes if it cannot be seen. -/
def quoteDouble (cs : Chars) : Chars :=
  if !cs.all isVisible then quoteDollar cs
  else
    let special := fun (c : Char) => ['"', '$', '\\', Char.ofNat 96].contains c
    ['"'] ++ (cs.flatMap fun c => if special c then ['\\', c] else [c]) ++ ['"']

/-- A text as it is if nothing in it means anything, and else between
single quotes. -/
def quoteIfNeeded (cs : Chars) : Chars :=
  if !cs.all isVisible then quoteDollar cs
  else if cs.any backslashed.contains || cs.head? == some '#' || cs.head? == some '~' then
    quoteSingle cs
  else cs

end ScriptMatrix.Sandbox.Shell
