import ScriptMatrix.Proofs.Files.Course
import ScriptMatrix.Proofs.Files.Writes
import ScriptMatrix.Proofs.Run.Action
import ScriptMatrix.Sandbox.Machine

/-!
# `ScriptMatrix.Proofs.Run.Machine`: what a runner does to a machine

On a machine in memory a runner writes a script and then starts a program on it. Writing
changes the files, and keeps all that was there (`persist_keeps`). The path of the script is
made absolute on the way, so it does not matter where it is looked up. Starting looks the
program up in the directory that it is to run in (`start_eq`), and only then carries out
the script, or fails (`startFound`).
-/

set_option autoImplicit false

namespace ScriptMatrix.Sandbox.Machine

open Sandbox.Tree (Keeps)

variable {mc mc' : Machine} {r : Runner} {dir : Location}

/-- A change of the files that works leaves the files changed, and nothing else of the
machine. -/
theorem on_change_ok {f : Tree → Except Fault Tree} {t : Tree} (h : f mc.tree = .ok t) :
    (Action.ofFault fun mc : Machine => mc.change f).on mc = (.ok (), { mc with tree := t }) := by
  rw [Action.on_ofFault, change, h]
  rfl

/-- A change of the files that fails leaves everything. -/
theorem on_change_error {f : Tree → Except Fault Tree} {fault : Fault}
    (h : f mc.tree = .error fault) :
    (Action.ofFault fun mc : Machine => mc.change f).on mc = (.error (.io fault), mc) := by
  rw [Action.on_ofFault, change, h]
  rfl

/-! ### Writing a script -/

/-- The place of the next file of its own. A runner writes there if its settings name no
path for scripts. -/
def ownPlace (mc : Machine) : Location := ["tmp", "script-" ++ toString mc.scratches ++ ".sh"]

/-- Paths from the root directory are absolute. The current directory is told as such a
path. -/
theorem isAbsolute_pathTo (place : Location) : (pathTo place).isAbsolute = true := by
  rw [pathTo, Path.isAbsolute, String.toList_append]
  rfl

/-- A script is written to an absolute path. Finding it out changes nothing. -/
theorem on_scriptLocation (r : Runner) (script : Path) (mc : Machine) :
    ∃ location : Path, location.isAbsolute = true ∧
      (r.scriptLocation host script).on mc = (.ok location, mc) := by
  rw [Runner.scriptLocation]
  split
  case isTrue habsolute => exact ⟨script, habsolute, rfl⟩
  case isFalse =>
    -- A relative path goes behind the current directory, and that is told as an absolute
    -- one.
    rw [Action.on_bind_ok (Action.on_lift host.currentDir mc)]
    refine ⟨_, Path.isAbsolute_join_of_isAbsolute ?_ _, rfl⟩
    cases r.settings.workDir with
    | none => exact isAbsolute_pathTo _
    | some work => exact Path.isAbsolute_join_of_isAbsolute (isAbsolute_pathTo _) _

/-- A script that has been written has an absolute path, and all that was there still is,
provided that a file of its own is a new one. A directory in its place would be lost. -/
theorem persist_keeps {text : Bytes} {path : Path} {own : Bool}
    (hnew : r.settings.scriptPath = none → mc.tree.get? mc.ownPlace ≠ some .directory)
    (hpersist : (r.persist host text).on mc = (.ok (path, own), mc')) :
    path.isAbsolute = true ∧ Keeps mc.tree mc'.tree := by
  rw [Runner.persist] at hpersist
  cases hscript : r.settings.scriptPath with
  | none =>
    -- Without a path of its own the script goes to a new file, and `hnew` is needed there
    -- alone.
    rw [hscript] at hpersist
    cases hpersist
    exact ⟨isAbsolute_pathTo _, Keeps.put (hnew hscript) _⟩
  | some script =>
    rw [hscript] at hpersist
    dsimp only at hpersist
    obtain ⟨location, habsolute, hlocation⟩ := on_scriptLocation r script mc
    have hchange : host.write location text = fun mc => mc.change (·.write location text) := rfl
    rw [Action.on_bind_ok hlocation, hchange] at hpersist
    -- A write that fails is an error, so `hpersist` leaves the one that works.
    cases hwritten : mc.tree.write location text with
    | error fault =>
      rw [Action.on_bind_error (on_change_error hwritten)] at hpersist
      cases hpersist
    | ok t' =>
      rw [Action.on_bind_ok (on_change_ok hwritten)] at hpersist
      cases hpersist
      exact ⟨habsolute, Tree.write_keeps hwritten⟩

/-! ### Starting a program -/

/-- What comes of a program that has been looked up, on a script in a directory. The script
is carried out as seen from that directory. -/
def startFound (mc : Machine) (dir : Location) (script : Path) :
    Except Fault Location → Except Fault Finish × Machine
  | .error fault => (.error fault, mc)
  | .ok place =>
    if (programAt? place).isNone then (.error .permissionDenied, mc)
    else
      let (exit, after, text) := carryOut (mc.tree.within dir) place script
      (.ok ⟨exit, 0⟩,
        { mc with tree := after.within mc.tree.current, shown := mc.shown ++ text })

/-- A program is looked up in the directory that it is started in. A path with a NUL would
be refused before that, and the hypotheses exclude it. -/
theorem start_eq {l : Launch} (hprogram : Tree.pathFault? l.program = none)
    (hdir : mc.tree.walk l.workDir = .ok dir) (hdirectory : mc.tree.get? dir = some .directory) :
    mc.start l = mc.startFound dir l.script ((mc.tree.within dir).walk l.program) := by
  -- The path and the directory are both looked at for a NUL. Neither has one, since both
  -- are paths that can be walked.
  have hnul : ∀ p : Path, Tree.pathFault? p = none → p.text.toList.contains '\x00' = false := by
    intro p hp
    rw [Tree.pathFault?] at hp
    split at hp
    case isTrue => cases hp
    case isFalse h => simpa [List.contains_eq_any_beq, Bool.beq_comm] using h
  rw [start, hnul _ hprogram, hnul _ (Tree.pathFault?_of_walk hdir), if_neg (by decide), hdir]
  dsimp only
  rw [hdirectory, if_neg (by simp)]
  show (match (mc.tree.within dir).walk l.program with | .error fault => _ | .ok place => _) = _
  cases (mc.tree.within dir).walk l.program with
  | error fault => rfl
  | ok place => rfl

end ScriptMatrix.Sandbox.Machine
