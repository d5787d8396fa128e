import ScriptMatrix.CommandLine
import ScriptMatrix.Sandbox.Machine

/-!
# `ScriptMatrix.Main`: the program on the disk

The program does on the disk what `CommandLine.run` says. A document is
read together with everything that it could include. Scripts are carried
out by the shell of `ScriptMatrix.Sandbox`, on a copy of the directory
that they are started in, and what they change is then written back.
-/

set_option autoImplicit false

namespace ScriptMatrix.Disk

/-! ### Files -/

/-- Why an operation failed. -/
def faultOf : IO.Error → Fault
  | .noFileOrDirectory .. => .notFound
  | .permissionDenied .. => .permissionDenied
  | .alreadyExists .. => .exists
  | .inappropriateType _ 20 _ => .notDirectory
  | .inappropriateType _ 21 _ => .isDirectory
  | .invalidArgument _ 36 _ => .nameTooLong
  | e => .other (toString e)

/-- Carries out an operation that may fail. -/
def attempt {α : Type} (x : IO α) : IO (Except Fault α) := do
  match ← x.toBaseIO with
  | .ok a => return .ok a
  | .error e => return .error (faultOf e)

/-- The path without links, if it leads anywhere. -/
def resolve? (p : Path) : IO (Option String) := do
  if p.text.isEmpty then return none
  return (← attempt (IO.FS.realPath p.text)).toOption.map toString

/-- The bytes of a file. -/
def read (p : Path) : IO (Except Fault Bytes) := do
  return (← attempt (IO.FS.readBinFile p.text)).map ByteArray.toList

/-- Writes a file. -/
def write (p : Path) (b : Bytes) : IO (Except Fault Unit) :=
  attempt (IO.FS.writeBinFile p.text (ByteArray.mk b.toArray))

/-- The paths that the lines of a document ask to include. -/
def inclusions (b : Bytes) : List String :=
  (b.splitBy fun _ next => next != newlineByte).filterMap fun line =>
    match Directive.classify (line.dropWhile (· == newlineByte)) with
    | .inclusion path => some path
    | _ => none

/-- The files that paths lead to, and those that they could include, with
the names by which they may be asked for. -/
partial def collect (rootDir : Path) (found : List (String × Content))
    (names : List (Path × String)) :
    List Path → IO (List (String × Content) × List (Path × String))
  | [] => return (found, names)
  | p :: rest => do
    if names.any (·.1 == p) then return ← collect rootDir found names rest
    match ← resolve? p with
    | none => collect rootDir found names rest
    | some place =>
      let names := (p, place) :: names
      if found.any (·.1 == place) then return ← collect rootDir found names rest
      match ← read p with
      | .ok b =>
        let more := (inclusions b).flatMap fun path => [Path.mk path, rootDir.join path]
        collect rootDir ((place, .bytes b) :: found) names (more ++ rest)
      | .error .isDirectory => collect rootDir ((place, .directory) :: found) names rest
      | .error fault => collect rootDir ((place, .closed fault) :: found) names rest

/-- The files that a root document is read from. -/
def files (root : Path) : IO Files := do
  let (found, names) ← collect (Source.directoryOf root) [] [] [root]
  return {
    contents := found.map (·.2)
    resolve := fun p => (names.lookup p).bind fun place => found.findIdx? (·.1 == place) }

/-! ### Scripts -/

/-- The names on the way to a place. -/
def locationOf (place : String) : Sandbox.Location :=
  (Sandbox.Tree.steps ⟨place⟩).filter fun s => s != "" && s != "."

/-- A directory with everything in it. -/
partial def copyOf (place : String) (t : Sandbox.Tree) : IO Sandbox.Tree := do
  let dir ← IO.FS.realPath place
  let mut t := t.put (locationOf place) .directory
  for e in ← dir.readDir do
    let inside := toString e.path
    if ← e.path.isDir then t ← copyOf inside t
    else match ← read ⟨inside⟩ with
      | .ok b => t := t.put (locationOf inside) (.file b)
      | .error _ => pure ()
  return t

/-- Brings the disk from one state of a directory to another. -/
def writeBack (before after : Sandbox.Tree) : IO Unit := do
  for (place, entry) in after.entries do
    if before.get? place != some entry then
      let p := Sandbox.pathTo place
      match entry with
      | .directory => IO.FS.createDirAll p.text
      | .file b => let _ ← write p b
      | .void => pure ()
  for (place, entry) in before.entries do
    if (after.get? place).isNone && entry != .directory then
      let _ ← attempt (IO.FS.removeFile (Sandbox.pathTo place).text)

/-- The directories above a place, and the place. -/
def above (place : Sandbox.Location) : List (Sandbox.Location × Sandbox.Entry) :=
  (List.range (place.length + 1)).map fun n => (place.take n, .directory)

/-- Carries out a script. -/
def start (l : Launch) : IO (Except Fault Finish) := do
  let some place ← resolve? l.workDir | return .error .notFound
  let some name := l.program.fileName? | return .error .permissionDenied
  let program : Sandbox.Location := ["usr", "bin", String.ofList name]
  if (Sandbox.programAt? program).isNone then return .error .permissionDenied
  let began ← IO.monoMsNow
  let here := locationOf place
  let before ← copyOf place ⟨above here, here⟩
  let t ← match ← resolve? l.script, ← read l.script with
    | some script, .ok b =>
      let script := locationOf script
      pure { before with entries := above script.dropLast ++ (before.put script (.file b)).entries }
    | _, _ => pure before
  let (exit, after, shown) := Sandbox.Machine.carryOut t program l.script
  (← IO.getStdout).write (ByteArray.mk shown.toArray)
  writeBack t after
  return .ok ⟨exit, ((← IO.monoMsNow) - began) / 10⟩

/-- Where a program is found. -/
def findProgram (name : String) : IO (Option Path) := do
  if name.isEmpty then return none
  for dir in ((← IO.getEnv "PATH").getD "").splitOn ":" do
    let p := (Path.mk dir).join name
    if let some place ← resolve? p then
      if !(← (← IO.FS.realPath place).isDir) then return some p
  return none

/-- A new file of its own. -/
def scratch (b : Bytes) : IO (Except Fault Path) := attempt do
  let (handle, path) ← IO.FS.createTempFile
  handle.write (ByteArray.mk b.toArray)
  handle.flush
  return ⟨toString path⟩

/-- The disk as a host. -/
def host : Host IO where
  currentDir := return ⟨toString (← IO.currentDir)⟩
  files := files
  pathExists p := return (← resolve? p).isSome
  findProgram := findProgram
  read := read
  write := write
  makeDirectories p := attempt (IO.FS.createDirAll p.text)
  scratch := scratch
  discard p := do let _ ← attempt (IO.FS.removeFile p.text)
  start := start
  output b := do (← IO.getStdout).write (ByteArray.mk b.toArray)

/-- The directory of the user's settings. -/
def configDir : IO (Option Path) := do
  match ← IO.getEnv "XDG_CONFIG_HOME", ← IO.getEnv "HOME" with
  | some dir, home =>
    if (Path.mk dir).isAbsolute then return some ⟨dir⟩
    else return home.map fun h => (Path.mk h).join ".config"
  | none, home => return home.map fun h => (Path.mk h).join ".config"

/-- Whether what is shown may be coloured: if the environment forces it, or
does not refuse it and the output is a terminal. -/
def allowsColor : IO Bool := do
  let allowed := fun value : Option String => value.all (· != "0")
  let forced ← IO.getEnv "CLICOLOR_FORCE"
  if forced.isSome && allowed forced then return true
  if (← IO.getEnv "NO_COLOR").isSome then return false
  return allowed (← IO.getEnv "CLICOLOR") && (← (← IO.getStdout).isTty)

end ScriptMatrix.Disk

/-- The program: exit code 0 if all went well, 1 if something failed, and
2 if the arguments make no sense. -/
def main (args : List String) : IO UInt32 := do
  let color ← ScriptMatrix.Disk.allowsColor
  let ending ← ScriptMatrix.CommandLine.run ScriptMatrix.Disk.host (← ScriptMatrix.Disk.configDir)
    color args
  match ending with
  | .failed e => IO.eprintln ("Error: " ++ e.message)
  | .usage => IO.eprintln ScriptMatrix.CommandLine.helpText
  | _ => pure ()
  return UInt32.ofNat ending.code
