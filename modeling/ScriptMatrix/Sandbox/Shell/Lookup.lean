import ScriptMatrix.Sandbox.Shell.Builtin.Basic

/-!
# `ScriptMatrix.Sandbox.Shell.Lookup`: finding programs

A program is named by a path, or by a name that is searched for in the
directories of a list.
-/

set_option autoImplicit false

namespace ScriptMatrix.Sandbox.Shell.Act

/-- Where the program at a path is, or why it cannot be started. -/
def startable (path : Chars) : Act (Except String Location) := do
  let t ← tree
  match t.walk (pathOf path) with
  | .error fault => return .error (reasonOf fault)
  | .ok place =>
    if t.get? place == some .directory then return .error "Is a directory"
    if (← system).executables.contains place then return .ok place
    return .error "Permission denied"

/-- The directories in which programs are searched for. -/
def searchDirs : Act (List Chars) := do
  let listed := (← text? "PATH".toList).getD
    "/usr/local/sbin:/usr/local/bin:/usr/sbin:/usr/bin:/sbin:/bin".toList
  return (splitOn ':' listed).map fun d => if d.isEmpty then ['.'] else d

/-- The paths that a name may stand for. -/
def candidates (name : Chars) : Act (List Chars) := do
  if name.contains '/' then return [name]
  return (← searchDirs).map fun d =>
    if d.getLast? == some '/' then d ++ name else d ++ ['/'] ++ name

/-- The paths of all programs that a name stands for. -/
def programsNamed (name : Chars) : Act (List Chars) := do
  if name.isEmpty then return []
  (← candidates name).filterM fun path => return (← startable path).isOk

/-- The path and the place of the program that a name stands for, or why
it cannot be started. -/
def findProgram (name : Chars) : Act (Except String (Chars × Location)) := do
  if name.isEmpty then return .error "No such file or directory"
  if name.contains '/' then return (← startable name).map fun place => (name, place)
  let mut reason := "No such file or directory"
  for path in ← candidates name do
    match ← startable path with
    | .ok place => return .ok (path, place)
    | .error "Permission denied" => reason := "Permission denied"
    | .error _ => pure ()
  return .error reason

end ScriptMatrix.Sandbox.Shell.Act
