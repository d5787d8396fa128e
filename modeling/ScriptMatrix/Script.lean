import ScriptMatrix.Binding
import ScriptMatrix.Defaults
import ScriptMatrix.Error
import ScriptMatrix.Shell.Name
import ScriptMatrix.Shell.Quote
import ScriptMatrix.Text.Blank

/-!
# `ScriptMatrix.Script`: a test script and its text

A script is a body with parameters in front. Its text assigns the default
parameters, then those of the binding, then the overrides, so that of two
assignments to one name the later wins; it logs which script this is, and
goes on with the body, byte for byte. `Script.append` adds overrides, all
of them or, when one is invalid, none.
-/

set_option autoImplicit false

namespace ScriptMatrix

namespace Script

/-- The line that assigns a value to a variable. -/
def assignment (e : String × String) : List Char :=
  e.1.toList ++ '=' :: Shell.quoteChars e.2.toList ++ ['\n']

/-- A titled group of assignments, with an empty line behind it. -/
def group (title : String) (entries : List (String × String)) : List Char :=
  '#' :: ' ' :: title.toList ++ '\n' :: entries.flatMap assignment ++ ['\n']

/-- What a script logs: the matrix and the binding. -/
def logText (name : String) (b : Binding) : List Char :=
  Text.trimEnd (name.toList ++ " => ".toList ++ b.text.toList)

/-- The first lines of every script. -/
def opening : List Char :=
  "#!/bin/bash\n# test script auto generated by matrix-shell\n\n".toList

/-- The generated part of a script, in front of its body. -/
def header (name : String) (defaults : Defaults) (b : Binding)
    (overrides : List (String × String)) : List Char :=
  opening
    ++ group "default params" defaults.entries
    ++ group "test params" b.entries
    ++ group "user defined params" overrides
    ++ "echo ".toList ++ Shell.quoteChars (logText name b) ++ ['\n']

/-- The text of a script. -/
def render (name : String) (defaults : Defaults) (b : Binding)
    (overrides : List (String × String)) (body : Bytes) : Bytes :=
  Text.encode (String.ofList (header name defaults b overrides)) ++ body

end Script

/-- A test script. Its text is kept beside its parts. -/
structure Script where
  name : String
  binding : Binding
  defaults : Defaults
  body : Bytes
  /-- Added parameters in the order they first came. -/
  overrides : List (String × String)
  text : Bytes
  deriving Repr

namespace Script

/-- A script without overrides. -/
def ofBinding (name : String) (defaults : Defaults) (body : Bytes) (b : Binding) : Script :=
  ⟨name, b, defaults, body, [], render name defaults b [] body⟩

/-- What identifies a script. -/
def descriptor (s : Script) : String := s.binding.descriptor s.name

/-- The text of a script for display, with U+FFFD for what is no text. -/
def display (s : Script) : String := Text.decodeLossy s.text

/-- The name and value of an override `KEY=VALUE`: the key may have
blanks around it and the value is everything behind the first `=`. -/
def override? (param : String) : Option (String × String) :=
  let cs := param.toList
  let key := Text.trim (cs.takeWhile (· != '='))
  match cs.dropWhile (· != '=') with
  | [] => none
  | _ :: value =>
    if Shell.isName key then some (String.ofList key, String.ofList value) else none

/-- Reads overrides up to the first invalid one, which is the error. -/
def readOverrides (params : List String) : Except Error (List (String × String)) :=
  params.mapM fun p =>
    match override? p with
    | some e => .ok e
    | none => .error (.invalidOverride p)

/-- Gives a name its value: in its old place, or else at the end. -/
def put (entries : List (String × String)) (e : String × String) : List (String × String) :=
  match entries with
  | [] => [e]
  | e' :: rest => if e'.1 == e.1 then e :: rest else e' :: put rest e

/-- The script with other overrides. -/
def withOverrides (s : Script) (overrides : List (String × String)) : Script :=
  { s with
    overrides := overrides
    text := render s.name s.defaults s.binding overrides s.body }

/-- Adds overrides, all of them or none. -/
def append (s : Script) (params : List String) : Except Error Script := do
  let entries ← readOverrides params
  return s.withOverrides (entries.foldl put s.overrides)

/-- Adds overrides to a script in its place: whether that went well, and
the script after it, which is as before if it did not. -/
def update (s : Script) (params : List String) : Except Error Unit × Script :=
  match s.append params with
  | .ok s' => (.ok (), s')
  | .error e => (.error e, s)

end Script

end ScriptMatrix
