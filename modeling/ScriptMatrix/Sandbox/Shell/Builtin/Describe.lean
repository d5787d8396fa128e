import ScriptMatrix.Sandbox.Shell.Lookup

/-!
# `ScriptMatrix.Sandbox.Shell.Builtin.Describe`: telling what names mean

A name at the front of a command may be a word of the language, an alias,
a function, a command of the shell itself, or a program.
-/

set_option autoImplicit false

namespace ScriptMatrix.Sandbox.Shell

/-- The words of the language. -/
def keywords (d : Dialect) : List String :=
  let common := ["!", "\x7b", "\x7d", "case", "do", "done", "elif", "else", "esac", "fi", "for",
    "if", "then", "until", "while", "in"]
  match d with
  | .extended => common ++ ["[[", "]]", "function", "select", "time", "coproc"]
  | .plain => common

/-- The commands of the shell itself. -/
def builtinNames : Dialect → List String
  | .extended => [".", ":", "[", "alias", "bg", "bind", "break", "builtin", "caller", "cd",
      "command",
      "compgen", "complete", "compopt", "continue", "declare", "dirs", "disown", "echo", "enable",
      "eval", "exec", "exit", "export", "false", "fc", "fg", "getopts", "hash", "help", "history",
      "jobs", "kill", "let", "local", "logout", "mapfile", "popd", "printf", "pushd", "pwd", "read",
      "readarray", "readonly", "return", "set", "shift", "shopt", "source", "suspend", "test",
      "times", "trap", "true", "type", "typeset", "ulimit", "umask", "unalias", "unset", "wait"]
  | .plain => [".", ":", "[", "alias", "bg", "break", "cd", "chdir", "command", "continue", "echo",
      "eval", "exec", "exit", "export", "false", "fg", "getopts", "hash", "jobs", "kill", "local",
      "printf", "pwd", "read", "readonly", "return", "set", "shift", "test", "times", "trap",
      "true", "type", "ulimit", "umask", "unalias", "unset", "wait"]

/-- The commands of the plain dialect in which whatever goes wrong ends the
script, and whose assignments stay. -/
def specialNames : List String :=
  [".", ":", "break", "continue", "eval", "exec", "exit", "export", "local", "readonly", "return",
    "set", "shift", "times", "trap", "unset"]

/-- What a name means. -/
inductive Meaning where
  | keyword
  | alias_ (text : Chars)
  | function
  | builtin
  | program (path : Chars)

namespace Act

/-- All that a name means, what counts first. -/
def meanings (name : Chars) (functions : Bool) : Act (List Meaning) := do
  let p ← process
  let word := String.ofList name
  let named := p.dialect == .plain || p.extras.contains "expand_aliases"
  let aliases := match if named then p.aliases.lookup name else none with
    | some text => [Meaning.alias_ text]
    | none => []
  let keyword := if (keywords p.dialect).contains word then [Meaning.keyword] else []
  let function := if functions && p.functions.any (·.1 == name) then [Meaning.function] else []
  let builtin := if (builtinNames p.dialect).contains word && !p.disabled.contains word then
      [Meaning.builtin] else []
  let paths ← if name.contains '/' then
      match ← startable name with
      | .ok _ => pure [name]
      | .error _ => pure []
    else programsNamed name
  let inOrder := match p.dialect with
    | .extended => aliases ++ keyword ++ function ++ builtin
    | .plain =>
      if specialNames.contains word then keyword ++ aliases ++ builtin ++ function
      else keyword ++ aliases ++ function ++ builtin
  return inOrder ++ paths.map Meaning.program

/-- A sentence that tells what a name means. -/
def sentence (name : Chars) : Meaning → Act Chars
  | .keyword => return name ++ " is a shell keyword".toList
  | .alias_ text => do
    if ← isExtended then
      return name ++ " is aliased to ".toList ++ [Char.ofNat 96] ++ text ++ ['\'']
    else return name ++ " is an alias for ".toList ++ text
  | .function => do
    return name ++ (if ← isExtended then " is a function" else " is a shell function").toList
  | .builtin => do
    let isSpecial := !(← isExtended) && specialNames.contains (String.ofList name)
    return name ++
      (if isSpecial then " is a special shell builtin" else " is a shell builtin").toList
  | .program path => return name ++ " is ".toList ++ path

/-- The word for what a name means. -/
def Meaning.word : Meaning → Chars
  | .keyword => "keyword".toList
  | .alias_ _ => "alias".toList
  | .function => "function".toList
  | .builtin => "builtin".toList
  | .program _ => "file".toList

/-- Tells what names mean. -/
def type (args : List Chars) : Act Nat := do
  let extended ← isExtended
  match if extended then Options.read "afptP" "" args else .ok ⟨[], args⟩ with
  | .error e => complainOptions "type".toList e
  | .ok o =>
    let mut status := 0
    for name in o.arguments do
      let found ← meanings name (!o.has 'f')
      let found := if o.has 'P' then found.filter fun
          | .program _ => true
          | _ => false
        else found
      let found := if o.has 'a' then found else found.take 1
      if found.isEmpty then
        if !(o.has 't' || o.has 'p' || o.has 'P') then
          if extended then complainOf "type".toList (name ++ ": not found".toList)
          else write 1 (name ++ ": not found\n".toList)
        status := if extended then 1 else 127
      for m in found do
        if o.has 't' then write 1 (Meaning.word m ++ ['\n'])
        else if o.has 'p' || o.has 'P' then
          match m with
          | .program path => write 1 (path ++ ['\n'])
          | _ => pure ()
        else write 1 ((← sentence name m) ++ ['\n'])
    return status

/-- Tells what names mean in the words of `command`, in short or as
sentences. -/
def describe (short : Bool) (names : List Chars) : Act Nat := do
  let extended ← isExtended
  let mut found := 0
  let mut missing := 0
  for name in if extended then names else names.take 1 do
    match (← meanings name true).head? with
    | none =>
      missing := missing + 1
      if !short then
        if extended then complainOf "command".toList (name ++ ": not found".toList)
        else write 1 (name ++ ": not found\n".toList)
    | some m =>
      found := found + 1
      if short then
        match m with
        | .program path => write 1 (path ++ ['\n'])
        | .alias_ text => write 1 ("alias ".toList ++ name ++ ['='] ++ quoteSingle text ++ ['\n'])
        | _ => write 1 (name ++ ['\n'])
      else write 1 ((← sentence name m) ++ ['\n'])
  if extended then return if found == 0 && 0 < missing then 1 else 0
  else return if 0 < missing then 127 else 0

/-- Remembers where programs are, which changes nothing here: none is
remembered. -/
def hash (args : List Chars) : Act Nat := do
  let command := "hash".toList
  let extended ← isExtended
  match if extended then Options.read "dlrt" "p" args else Options.read "rv" "" args with
  | .error e => complainOptions command e
  | .ok o =>
    if o.arguments.isEmpty then
      if extended && !o.has 'r' then write 1 "hash: hash table empty\n".toList
      return 0
    if (o.value? 'p').isSome then return 0
    let mut status := 0
    for name in o.arguments do
      if o.has 't' || o.has 'd' || (← programsNamed name).isEmpty then
        complainOf command (name ++ ": not found".toList)
        status := 1
    return status

end Act

end ScriptMatrix.Sandbox.Shell
