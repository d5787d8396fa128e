import ScriptMatrix.Document.Files

/-!
# `ScriptMatrix.Run.Host`: what a run needs of its surroundings

Files are written, programs started and text shown by a `Host`. Its
operations live in any monad: the machine itself, or files in memory.
-/

set_option autoImplicit false

namespace ScriptMatrix

/-- A script to be started. -/
structure Launch where
  program : Path
  script : Path
  workDir : Path
  /-- After how many seconds to stop the program. -/
  limit : Option Nat
  deriving Repr

/-- How a program ended. -/
inductive Exit where
  | code (n : Int)
  | killed
  | timedOut
  deriving Repr, DecidableEq

/-- How a program ended, and after how many hundredths of a second. -/
structure Finish where
  exit : Exit
  hundredths : Nat
  deriving Repr

/-- Operations on the surroundings. -/
structure Host (m : Type → Type) where
  /-- The current directory. -/
  currentDir : m Path
  /-- The files that can be read from a root document on. -/
  files : Path → m Files
  pathExists : Path → m Bool
  /-- Where the program with a name is found. -/
  findProgram : String → m (Option Path)
  read : Path → m (Except Fault Bytes)
  write : Path → Bytes → m (Except Fault Unit)
  /-- Makes a directory and those above it. -/
  makeDirectories : Path → m (Except Fault Unit)
  /-- Writes a new file of its own. -/
  scratch : Bytes → m (Except Fault Path)
  /-- Removes a file made by `scratch`. -/
  discard : Path → m Unit
  start : Launch → m (Except Fault Finish)
  /-- Shows bytes on the standard output. -/
  output : Bytes → m Unit

end ScriptMatrix
