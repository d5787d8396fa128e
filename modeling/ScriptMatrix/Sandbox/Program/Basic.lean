import ScriptMatrix.Sandbox.Options
import ScriptMatrix.Sandbox.Shell.Redirection

/-!
# `ScriptMatrix.Sandbox.Program.Basic`: programs of a machine

A program gets its name and arguments, reads its input or files, writes
output, and ends with a status. It complains on the stream for errors,
with its name in front.
-/

set_option autoImplicit false

namespace ScriptMatrix.Sandbox.Program

open Sandbox.Shell

/-- What a program does with its arguments: its status. -/
abbrev Body := List Chars → Act Nat

/-- A complaint of a program. -/
def complain (name : String) (message : Chars) : Act Unit :=
  Act.write 2 (name.toList ++ ": ".toList ++ message ++ ['\n'])

/-- Complains about options: the status. -/
def complainOptions (name : String) (status : Nat) (t : Options.Trouble) : Act Nat := do
  match t with
  | .unknown ['-', c] => complain name ("invalid option -- '".toList ++ [c, '\''])
  | .unknown option => complain name ("unrecognized option '".toList ++ option ++ ['\''])
  | .missing c => complain name ("option requires an argument -- '".toList ++ [c, '\''])
  return status

/-- A text between single quotes, as programs show names. -/
def quoted (cs : Chars) : Chars := ['\''] ++ cs ++ ['\'']

/-- What can be read from a path; a hyphen stands for the input. -/
def readPath (cs : Chars) : Act (Except String Chars) := do
  if cs == ['-'] then return .ok (← Act.takeAll 0)
  match (← Act.tree).find? (pathOf cs), Act.streamPath? cs with
  | some .directory, none => return .error "Is a directory"
  | _, _ =>
    match ← Act.openPath cs { reads := true } with
    | .ok n => return .ok (← Act.takeOpened n (fun _ => false) none).1
    | .error reason => return .error reason

/-- The texts of files with their names, or of the input if there are no
names; files that cannot be read are complained about. With the status. -/
def readInputs (name : String) (paths : List Chars) (status : Nat) :
    Act (List (Chars × Chars) × Nat) := do
  let paths := if paths.isEmpty then [['-']] else paths
  let mut found : List (Chars × Chars) := []
  let mut result := 0
  for p in paths do
    match ← readPath p with
    | .ok cs => found := found ++ [(p, cs)]
    | .error reason =>
      complain name (p ++ ": ".toList ++ reason.toList)
      result := status
  return (found, result)

/-- The text of all files one behind another. -/
def readWhole (name : String) (paths : List Chars) (status : Nat) : Act (Chars × Nat) := do
  let (found, result) ← readInputs name paths status
  return ((found.map (·.2)).flatten, result)

/-- The lines of a text without the newlines. -/
def bareLines (cs : Chars) : List Chars := (linesOf cs).map (dropSuffix ['\n'])

/-- Lines with a newline behind each. -/
def unlines (lines : List Chars) : Chars := lines.flatMap (· ++ ['\n'])

/-- The value of a long option, if an argument is one: behind an equals
sign. -/
def longOption? (a : Chars) : Option (Chars × Option Chars) :=
  match a with
  | '-' :: '-' :: c :: cs =>
    let name := (c :: cs).takeWhile (· != '=')
    some (name, if name.length < (c :: cs).length then some ((c :: cs).drop (name.length + 1))
      else none)
  | _ => none

/-- Arguments with the long options written as letters; those that take a
value keep it as the next argument. Options behind two hyphens stay. -/
def shorten (known : List (String × Char)) (args : List Chars) : List Chars :=
  let front := args.takeWhile (· != ['-', '-'])
  let back := args.drop front.length
  front.flatMap (fun a =>
    match longOption? a with
    | some (name, value) =>
      match known.lookup (String.ofList name) with
      | some c => ['-', c] :: value.toList
      | none => [a]
    | none => [a]) ++ back

end ScriptMatrix.Sandbox.Program
