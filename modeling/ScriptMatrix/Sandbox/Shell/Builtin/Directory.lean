import ScriptMatrix.Sandbox.Shell.Builtin.Basic

/-!
# `ScriptMatrix.Sandbox.Shell.Builtin.Directory`: where the shell is

The shell is in a directory, from which relative paths start. It can go to
another one, and keep paths on a stack to come back to; seen from outside,
the current directory is the first of them.
-/

set_option autoImplicit false

namespace ScriptMatrix.Sandbox.Shell.Act

/-- Goes to a directory: the reason, if that is not possible. -/
def enter (cs : Chars) : Act (Option String) := do
  let t ← tree
  match t.walk (pathOf cs) with
  | .error fault => return some (reasonOf fault)
  | .ok place =>
    if t.get? place != some .directory then return some "Not a directory"
    let before := (← text? "PWD".toList).getD (Shell.placeText (← process).directory)
    alter fun p => { p with directory := place }
    let export_ := fun (name cs : Chars) => do
      let v := (← plainLookup? name).getD {}
      store name ((v.withText cs))
    export_ "OLDPWD".toList before
    export_ "PWD".toList (Shell.placeText place)
    return none

/-- Goes to a directory. -/
def cd (args : List Chars) : Act Nat := do
  let command := "cd".toList
  let extended ← isExtended
  match Options.read (if extended then "LPe@" else "LP") "" args with
  | .error e => complainOptions command e
  | .ok o =>
    if extended && 1 < o.arguments.length then
      complainOf command "too many arguments".toList
      return 1
    let missing := fun (name : String) => do
      complainOf command (name ++ " not set").toList
      failing 1 2
    let go := fun (cs : Chars) (shows : Bool) => do
      match ← enter cs with
      | none =>
        if shows then write 1 ((← text? "PWD".toList).getD [] ++ ['\n'])
        return 0
      | some reason =>
        if extended then complainOf command (cs ++ ": ".toList ++ reason.toList)
        else complainOf command ("can't cd to ".toList ++ cs)
        failing 1 2
    match o.arguments.head? with
    | none =>
      match ← text? "HOME".toList with
      | some home => if home.isEmpty then return 0 else go home false
      | none => if extended then missing "HOME" else return 0
    | some ['-'] =>
      match ← text? "OLDPWD".toList with
      | some old => go old true
      | none => missing "OLDPWD"
    | some [] => go ['.'] false
    | some cs =>
      let listed := (← text? "CDPATH".toList).getD []
      let isPlain := cs.head? != some '/' && cs.head? != some '.' && !listed.isEmpty
      if isPlain then
        for dir in splitOn ':' listed do
          let path := if dir.isEmpty then cs else dir ++ ['/'] ++ cs
          if (← tree).isDirectory (pathOf path) then return ← go path (!dir.isEmpty)
      go cs false

/-- Shows the directory. -/
def pwd (_ : List Chars) : Act Nat := do
  write 1 (Shell.placeText (← process).directory ++ ['\n'])
  return 0

/-- A path as it is shown, with a tilde for where a person's files are. -/
def shortPath (path : Chars) : Act Chars := do
  let home ← homeText
  if home.length < 2 then return path
  if path == home then return ['~']
  if (home ++ ['/']).isPrefixOf path then return '~' :: path.drop home.length
  return path

/-- The place in a stack that a signed number means: counted from the
left with a plus sign, from the right with a minus sign. -/
inductive StackPlace where
  | left (n : Nat)
  | right (n : Nat)

/-- The index that a place has in a stack of so many. -/
def StackPlace.index? (count : Nat) : StackPlace → Option Nat
  | .left n => if n < count then some n else none
  | .right n => if n < count then some (count - 1 - n) else none

/-- What the arguments of a command about the stack ask for: letters, a
place, and what else there is. -/
structure StackRequest where
  letters : Chars := []
  place : Option (Chars × StackPlace) := none
  others : List Chars := []

/-- Complains about how a command is used: the status. -/
def misused (command : Chars) (message : Chars) : Act Nat := do
  complainOf command message
  return 2

/-- Reads the arguments of a command about the stack, which knows some
letters; or else the status. -/
def StackRequest.read (command known : Chars) : StackRequest → List Chars →
    Act (Except Nat StackRequest)
  | r, [] => return .ok r
  | r, a :: rest => do
    match a with
    | ['-', '-'] => return .ok { r with others := rest }
    | [sign, c] =>
      if sign == '-' && known.contains c then
        return ← StackRequest.read command known { r with letters := c :: r.letters } rest
    | _ => pure ()
    match a with
    | ['-'] => return .ok { r with others := a :: rest }
    | sign :: ds =>
      if sign == '+' || sign == '-' then
        match natural? ds with
        | some n =>
          let place := if sign == '+' then StackPlace.left n else .right n
          StackRequest.read command known { r with place := some (a, place) } rest
        | none => return .error (← misused command (a ++ ": invalid number".toList))
      else return .ok { r with others := a :: rest }
    | [] => return .ok { r with others := a :: rest }

/-- Complains about a place that is not in the stack: the status. -/
def complainStack (command shown : Chars) : Act Nat := do
  if (← process).stack.isEmpty then complainOf command "directory stack empty".toList
  else complainOf command (shown ++ ": directory stack index out of range".toList)
  return 1

/-- All directories of the stack, the current one first. -/
def stackPaths : Act (List Chars) := do
  let p ← process
  return Shell.placeText p.directory :: p.stack

/-- Shows the directories on the stack. -/
def dirs (args : List Chars) : Act Nat := do
  let command := "dirs".toList
  match ← StackRequest.read command "clpv".toList {} args with
  | .error status => return status
  | .ok r =>
    let has := r.letters.contains
    if !r.others.isEmpty && !args.contains ['-', '-'] then
      return ← misused command (r.others.headD [] ++ ": invalid option".toList)
    if has 'c' then
      alter fun p => { p with stack := [] }
      return 0
    let paths ← stackPaths
    let shown ← if has 'l' then pure paths else paths.mapM shortPath
    let numbered := fun (i : Nat) (cs : Chars) =>
      if has 'v' then (if i < 10 then [' '] else []) ++ digits i ++ "  ".toList ++ cs else cs
    match r.place with
    | some (a, place) =>
      match place.index? paths.length with
      | some i => write 1 (numbered i (shown.getD i []) ++ ['\n'])
      | none => return ← complainStack command (a.drop 1)
    | none =>
      let lines := ((List.range shown.length).zip shown).map fun (i, cs) => numbered i cs
      write 1 (joinWith (if has 'v' || has 'p' then ['\n'] else [' ']) lines ++ ['\n'])
    return 0

/-- Goes to a directory and shows the stack: the status. -/
def enterAndShow (command path : Chars) : Act Nat := do
  match ← enter path with
  | none => dirs []
  | some reason =>
    complainOf command (path ++ ": ".toList ++ reason.toList)
    return 1

/-- Goes to a directory and keeps the one before on the stack; or turns the
stack until a place of it is in front. -/
def pushd (args : List Chars) : Act Nat := do
  let command := "pushd".toList
  let p ← process
  let here := Shell.placeText p.directory
  if args.isEmpty then
    match p.stack with
    | [] =>
      complainOf command "no other directory".toList
      return 1
    | top :: rest =>
      alter fun q => { q with stack := here :: rest }
      return ← enterAndShow command top
  match ← StackRequest.read command ['n'] {} args with
  | .error status => return status
  | .ok r =>
    let stays := r.letters.contains 'n'
    match r.place, r.others with
    | some (a, place), _ =>
      let paths := here :: p.stack
      match place.index? paths.length with
      | none => complainStack command a
      | some i =>
        let turned := paths.drop i ++ paths.take i
        alter fun q => { q with stack := turned.drop 1 }
        if stays then return 0 else enterAndShow command (turned.headD here)
    | none, [] => return 0
    | none, path :: more =>
      if stays then
        alter fun q => { q with stack := path :: q.stack }
        dirs []
      else
        if !more.isEmpty then
          complainOf command "too many arguments".toList
          return 1
        let before := (← text? "OLDPWD".toList).getD []
        let path := if path == ['-'] then before else path
        match ← enter path with
        | some reason =>
          complainOf command (path ++ ": ".toList ++ reason.toList)
          return 1
        | none =>
          alter fun q => { q with stack := here :: q.stack }
          dirs []

/-- Takes a directory from the stack, by itself the one on top, to which it
goes. -/
def popd (args : List Chars) : Act Nat := do
  let command := "popd".toList
  match ← StackRequest.read command ['n'] {} args with
  | .error status => return status
  | .ok r =>
    match r.others with
    | (c :: cs) :: _ =>
      if !args.contains ['-', '-'] then
        return ← misused command ((c :: cs) ++ ": invalid argument".toList)
    | _ => pure ()
    let stack := (← process).stack
    let (a, place) := r.place.getD ([], .left 0)
    match if stack.isEmpty then none else place.index? (stack.length + 1) with
    | none => complainStack command a
    | some 0 =>
      if !r.letters.contains 'n' then
        match ← enter (stack.headD []) with
        | none => pure ()
        | some reason =>
          complainOf command (stack.headD [] ++ ": ".toList ++ reason.toList)
          return 1
      alter fun q => { q with stack := stack.drop 1 }
      dirs []
    | some (i + 1) =>
      alter fun q => { q with stack := stack.take i ++ stack.drop (i + 1) }
      dirs []

end ScriptMatrix.Sandbox.Shell.Act
