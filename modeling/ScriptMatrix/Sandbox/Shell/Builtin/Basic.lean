import ScriptMatrix.Sandbox.Options
import ScriptMatrix.Sandbox.Shell.Expansion

/-!
# `ScriptMatrix.Sandbox.Shell.Builtin.Basic`: commands of the shell itself

A command of the shell gets arguments and gives a status. Some are special
to the plain dialect: what goes wrong in them ends the script.
-/

set_option autoImplicit false

namespace ScriptMatrix.Sandbox.Shell

/-- An argument of a command that declares variables. -/
inductive Operand where
  | text (cs : Chars)
  | assigned (name : Chars) (index : Option Chars) (append : Bool) (cs : Chars)
  | elements (name : Chars) (append : Bool) (es : List Act.NewElement)

namespace Act

/-- A complaint about a command. -/
def complainOf (command : Chars) (message : Chars) : Act Unit := do
  if ← isExtended then complain (command ++ ": ".toList ++ message)
  else complainFor command message

/-- What a special command ends with after a complaint: in the plain
dialect it gives up. -/
def refuse (status : Nat) : Act Nat := do
  if ← isExtended then return status else giveUp

/-- What an ordinary command ends with after a complaint. -/
def failing (extended plain : Nat) : Act Nat := do
  return if ← isExtended then extended else plain

/-- Complains about options: the status. -/
def complainOptions (command : Chars) : Options.Trouble → Act Nat
  | .unknown option => do
    if ← isExtended then complainOf command (option ++ ": invalid option".toList)
    else complainOf command ("Illegal option ".toList ++ option)
    return 2
  | .missing c => do
    if ← isExtended then
      complainOf command (['-', c] ++ ": option requires an argument".toList)
    else complainOf command ("No arg for -".toList ++ [c] ++ " option".toList)
    return 2

/-- The arguments of a command of the extended dialect that knows no
options, or the status. -/
def withoutOptions (command : Chars) (args : List Chars) : Act (Except Nat (List Chars)) := do
  match Options.read "" "" args with
  | .error e =>
    if ← isExtended then return .error (← complainOptions command e) else return .ok args
  | .ok o => return .ok o.arguments

/-- Complains about a text that is no name: the status. -/
def complainName (command name : Chars) : Act Nat := do
  if ← isExtended then
    complainOf command (Char.ofNat 96 :: name ++ "': not a valid identifier".toList)
  else complainOf command (name ++ ": bad variable name".toList)
  return 1

/-- The number that an argument writes, within what fits. White space may
stand in front of it, but only blanks behind it. -/
def number? (cs : Chars) : Option Int :=
  if (cs.reverse.dropWhile isGap).head?.any isSpace then none
  else (integer? cs).filter fun i => -9223372036854775808 ≤ i && i ≤ 9223372036854775807

/-- The number that an argument writes in the plain dialect, where it must
not be negative nor too large. -/
def plainNumber? (cs : Chars) : Option Nat :=
  ((integer? cs).filter fun i => 0 ≤ i && i ≤ 2147483647).map Int.toNat

end Act

end ScriptMatrix.Sandbox.Shell
