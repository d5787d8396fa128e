import ScriptMatrix.Sandbox.Program.Edit
import ScriptMatrix.Sandbox.Program.Launch
import ScriptMatrix.Sandbox.Program.Letters
import ScriptMatrix.Sandbox.Program.Order
import ScriptMatrix.Sandbox.Program.Sum
import ScriptMatrix.Sandbox.Shell.Builtin.Signal
import ScriptMatrix.Sandbox.Shell.Builtin.Text
import ScriptMatrix.Sandbox.Shell.Test

/-!
# `ScriptMatrix.Sandbox.Program`: the programs of a machine

A machine has shells, programs that do something with their arguments and
what they read, and programs that start others. They are found by name in
a few directories.
-/

set_option autoImplicit false

namespace ScriptMatrix.Sandbox

open Sandbox.Shell

/-- What is done when a program is started. -/
inductive Program where
  /-- It carries out scripts. -/
  | shell (d : Dialect)
  | body (b : Program.Body)
  /-- It starts other programs. -/
  | starter (b : Program.Start → Program.Body)

namespace Program

/-- A command of the shell as a program of its own. -/
def ofCommand (b : Body) : Program := .body fun args => do
  Act.alter fun p => { p with dialect := .extended }
  b args

/-- A program that ends with a status and does nothing else. -/
def ending (status : Nat) : Program := .body fun _ => return status

/-- Answers a question in brackets. -/
def bracket : Body := fun args => do
  if args.getLast? == some [']'] then Act.test ['['] args.dropLast
  else
    complain "[" ("missing ".toList ++ fancyQuoted [']']).dropLast
    return 2

end Program

/-- The programs by name. -/
def programs : List (String × Program) := [
  ("bash", .shell .extended), ("sh", .shell .plain), ("dash", .shell .plain),
  ("[", .ofCommand Program.bracket), ("basename", .body Program.basename),
  ("cat", .body Program.cat), ("chmod", .body Program.chmod), ("cmp", .body Program.cmp),
  ("comm", .body Program.comm), ("cp", .body (Program.transfer "cp" false)),
  ("cut", .body Program.cut), ("date", .body Program.date), ("diff", .body Program.diff),
  ("dirname", .body Program.dirname), ("echo", .ofCommand Act.echo),
  ("egrep", .body (Program.grep .extended)), ("env", .starter Program.env),
  ("expr", .body Program.expr), ("false", .ending 1), ("fgrep", .body (Program.grep .fixed)),
  ("find", .body Program.find), ("fold", .body Program.fold),
  ("grep", .body (Program.grep .basic)), ("head", .body Program.head),
  ("hostname", .body (Program.fixed "localhost")), ("id", .body Program.id),
  ("kill", .ofCommand Act.kill), ("ls", .body Program.ls), ("mkdir", .body Program.mkdir),
  ("mktemp", .body Program.mktemp), ("mv", .body (Program.transfer "mv" true)),
  ("nice", .starter (Program.plainly "nice" "n")), ("nl", .body Program.nl),
  ("nohup", .starter (Program.plainly "nohup" "")), ("nproc", .body (Program.fixed "4")),
  ("paste", .body Program.paste), ("printenv", .body Program.printenv),
  ("printf", .ofCommand Act.printf), ("pwd", .body Program.pwd),
  ("readlink", .body (Program.realpath "readlink" false)),
  ("realpath", .body (Program.realpath "realpath" true)), ("rev", .body Program.rev),
  ("rm", .body Program.rm), ("rmdir", .body Program.rmdir), ("sed", .body Program.sed),
  ("seq", .body Program.seq), ("setsid", .starter (Program.plainly "setsid" "")),
  ("sleep", .body Program.sleep), ("sort", .body Program.sort), ("stat", .body Program.stat),
  ("stdbuf", .starter (Program.plainly "stdbuf" "ioe")), ("sync", .ending 0),
  ("tac", .body Program.tac), ("tail", .body Program.tail), ("tee", .body Program.tee),
  ("test", .ofCommand (Act.test "test".toList)), ("timeout", .starter Program.timeout),
  ("touch", .body Program.touch), ("tr", .body Program.tr), ("true", .ending 0),
  ("uname", .body (Program.fixed "Linux")), ("uniq", .body Program.uniq),
  ("wc", .body Program.wc), ("which", .body Program.which),
  ("whoami", .body (Program.fixed "root")), ("xargs", .starter Program.xargs),
  ("yes", .body Program.yes)]

/-- The directories where programs are. -/
def programDirs : List Location := [["usr", "bin"], ["bin"]]

/-- The program at a place. -/
def programAt? (place : Location) : Option Program :=
  if programDirs.contains place.dropLast then programs.lookup (place.getLastD "") else none

end ScriptMatrix.Sandbox
