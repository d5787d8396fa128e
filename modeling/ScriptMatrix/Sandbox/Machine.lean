import ScriptMatrix.Run.Host
import ScriptMatrix.Sandbox.Shell.Evaluation

/-!
# `ScriptMatrix.Sandbox.Machine`: a machine held in memory

A machine has a tree of files and remembers what has been shown. Among
its files are programs, some of which carry out scripts. It is a `Host`,
so matrices can be read, rendered and run on it like on any other and what
comes of it can be looked at.
-/

set_option autoImplicit false

namespace ScriptMatrix.Sandbox

/-- A machine. -/
structure Machine where
  tree : Tree
  /-- What has been shown. -/
  shown : Bytes
  /-- How many files of their own scripts have had. -/
  scratches : Nat
  deriving Repr

/-- The directory that a new machine starts in. -/
def home : Location := ["tmp", "work"]

/-- A place as an absolute path. -/
def pathTo (place : Location) : Path := ⟨"/" ++ "/".intercalate place⟩

namespace Machine

/-- The directories of a new machine. -/
def directories : List Location := [["tmp"], home, ["usr"], ["usr", "bin"], ["bin"], ["dev"],
  ["etc"], ["home"], ["lib"], ["mnt"], ["opt"], ["proc"], ["root"], ["run"], ["sbin"], ["srv"],
  ["sys"], ["usr", "lib"], ["usr", "local"], ["usr", "local", "bin"], ["usr", "sbin"],
  ["usr", "share"], ["var"], ["var", "log"], ["var", "tmp"]]

/-- The files of a new machine that are no programs. -/
def devices : List Location := [["dev", "null"], ["dev", "zero"], ["dev", "full"], ["dev", "tty"]]

/-- The places of all programs. -/
def programPlaces : List Location :=
  programDirs.flatMap fun dir => programs.map fun p => dir ++ [p.1]

/-- A machine with its programs and an empty directory to start in. -/
def bare : Machine :=
  let entries := directories.map (·, Entry.directory) ++ devices.map (·, Entry.void) ++
    programPlaces.map (·, Entry.file [])
  ⟨⟨entries, home⟩, [], 0⟩

/-- The variables that a program on a machine gets to know. -/
def environment : List (Chars × Chars) := [
  ("PATH".toList, "/usr/local/sbin:/usr/local/bin:/usr/sbin:/usr/bin:/sbin:/bin".toList),
  ("HOME".toList, "/root".toList)]

/-- The number of the first process. -/
def firstNumber : Nat := 4000

/-- What is around a program that is started in a directory: nothing to
read, and what it writes is shown, except for its complaints. -/
def worldOf (t : Tree) : Shell.World where
  process := Shell.Process.fresh .extended "bash".toList environment firstNumber 1
    [(0, 0), (1, 1), (2, 2)] t.current
  system := {
    tree := t
    opened := #[
      { channel := .void, reads := true },
      { channel := .shown, writes := true },
      { channel := .void, writes := true }]
    nextNumber := firstNumber + 1
    executables := programPlaces }

/-- What has been shown, in the order of time. -/
def shownBy (s : Shell.System) : Bytes :=
  let texts := s.shown.reverse
  let isOrdered := (texts.zip (texts.drop 1)).all fun (a, b) => a.1 ≤ b.1
  let sorted := if isOrdered then texts else texts.mergeSort fun a b => a.1 ≤ b.1
  toBytes (sorted.flatMap (·.2))

/-- What the program at a place does on a script, in a tree where it was
started: how it ends, and the tree and what has been shown after it. -/
def carryOut (t : Tree) (program : Location) (script : Path) : Exit × Tree × Bytes :=
  let k := Shell.Act.again Shell.Act.depthLimit
  let path := ofText (pathTo program).text
  let run : Shell.Act (Except String Shell.Act.Ending) := do
    let r ← Shell.Act.launch k 5 path path program [ofText script.text]
    for j in (← Shell.Act.system).jobs do
      if j.ended.isNone then Shell.Act.runJob k j
    return r
  let (r, w) := run.run (worldOf t)
  let exit := match r with
    | .ok (.ok (.exited status)) => Exit.code status
    | .ok (.ok (.killed _)) => .killed
    | .ok (.error _) => .code 126
    | .error _ => .killed
  (exit, w.system.tree, shownBy w.system)

/-- Starts a program in a directory. -/
def start (mc : Machine) (l : Launch) : Except Fault Finish × Machine :=
  let t := mc.tree
  if l.workDir.text.toList.contains '\x00' || l.program.text.toList.contains '\x00' then
    (.error (.other "nul byte found in provided data"), mc)
  else match t.walk l.workDir with
    | .error fault => (.error fault, mc)
    | .ok dir =>
      if t.get? dir != some .directory then (.error .notDirectory, mc)
      else
        let inside := { t with current := dir }
        match inside.walk l.program with
        | .error fault => (.error fault, mc)
        | .ok place =>
          if (programAt? place).isNone then (.error .permissionDenied, mc)
          else
            let (exit, after, text) := carryOut inside place l.script
            (.ok ⟨exit, 0⟩,
              { mc with tree := { after with current := t.current }, shown := mc.shown ++ text })

/-- Changes the files, or fails and leaves them. -/
def change (mc : Machine) (f : Tree → Except Fault Tree) : Except Fault Unit × Machine :=
  match f mc.tree with
  | .ok t => (.ok (), { mc with tree := t })
  | .error fault => (.error fault, mc)

/-- Writes a file of its own. -/
def scratch (mc : Machine) (b : Bytes) : Except Fault Path × Machine :=
  let place : Location := ["tmp", "script-" ++ toString mc.scratches ++ ".sh"]
  (.ok (pathTo place),
    { mc with tree := mc.tree.put place (.file b), scratches := mc.scratches + 1 })

/-- Removes a file. -/
def discard (mc : Machine) (p : Path) : Machine :=
  match mc.tree.walk p with
  | .ok place => { mc with tree := mc.tree.erase place }
  | .error _ => mc

/-- Where the program with a name is found. -/
def findProgram (mc : Machine) (name : String) : Option Path :=
  (programDirs.map fun dir => (pathTo dir).join name).find? fun p =>
    match mc.tree.walk p with
    | .ok place => (programAt? place).isSome
    | .error _ => false

/-- The regular files below the current directory, by relative path. -/
def filesBelow (mc : Machine) : List (String × Bytes) :=
  let here := mc.tree.current
  mc.tree.entries.filterMap fun e =>
    match e.2 with
    | .file b =>
      if here.isPrefixOf e.1 then some ("/".intercalate (e.1.drop here.length), b) else none
    | _ => none

/-- A machine in memory as a host. -/
def host : Host (StateM Machine) where
  currentDir := return pathTo (← get).tree.current
  files _ := return (← get).tree.files
  pathExists p := return ((← get).tree.find? p).isSome
  findProgram name := return (← get).findProgram name
  read p := return (← get).tree.read p
  write p b := fun mc => mc.change (·.write p b)
  makeDirectories p := fun mc => mc.change (·.makeDirectories p)
  scratch b := fun mc => mc.scratch b
  discard p := modify (·.discard p)
  start l := fun mc => mc.start l
  output b := modify fun mc => { mc with shown := mc.shown ++ b }

end Machine

end ScriptMatrix.Sandbox
