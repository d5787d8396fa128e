import ScriptMatrix.Proofs.Run.Machine

/-!
# `ScriptMatrix.Proofs.Run.Interpreter`: which interpreter is started

An interpreter that is a path is checked when a runner is created, and looked up again
when a script is started. The check looks from the current directory. The start looks from
the directory that scripts are started in, and gets the path as it was written (`on_run`).
The path of the script does not have this trouble: it is made absolute when the script is
written (`persist_keeps`).

`starts_checked_iff` says when both lead to one place. Without a setting for the directory
they do. With one, a relative path has to go up so far that the two directories are below
one where it turns, and there has to be something on the way from the second one too. So a
path that goes up nowhere is never what was checked, in any other directory: either nothing
is found there and no script can be run (`checked_interpreter_lost`), or what is found is
another program.
-/

set_option autoImplicit false

namespace ScriptMatrix

namespace Runner

variable {W : Type} {h : Host (StateM W)}

/-- The directory that a runner starts programs in. A dot stands for the current one if none
is set. -/
def startDir (settings : RunSettings) : Path := settings.workDir.getD ⟨"."⟩

/-- A path is taken for an interpreter as it is written, if there is something. With a
single step it would be looked for among the programs. -/
theorem on_findInterpreter {interpreter : String}
    (hpath : 1 < (Path.mk interpreter).components.length) (w : W) :
    (findInterpreter h interpreter).on w =
      (if (h.pathExists ⟨interpreter⟩ w).1 then .ok ⟨interpreter⟩
        else .error (.interpreterNotFound interpreter), (h.pathExists ⟨interpreter⟩ w).2) := by
  rw [findInterpreter, if_pos hpath, Action.on_bind_ok (Action.on_lift _ w)]
  split <;> rfl

/-- A runner can be created with a path that there is, and has it for its interpreter. The
path is not made absolute by that. -/
theorem create_eq_ok_iff {settings : RunSettings}
    (hpath : 1 < (Path.mk settings.interpreter).components.length) {r : Runner} {w w' : W} :
    (create h settings false).on w = (.ok r, w') ↔
      r = ⟨settings, some ⟨settings.interpreter⟩⟩ ∧
        h.pathExists ⟨settings.interpreter⟩ w = (true, w') := by
  -- The interpreter is looked for first, and a runner is created just if it is found.
  have hfind := on_findInterpreter (h := h) hpath w
  rw [create, if_neg Bool.false_ne_true]
  generalize h.pathExists ⟨settings.interpreter⟩ w = found at hfind ⊢
  obtain ⟨found, w''⟩ := found
  cases found with
  | true =>
    rw [Action.on_bind_ok hfind]
    constructor
    · intro hcreate
      cases hcreate
      exact ⟨rfl, rfl⟩
    · rintro ⟨rfl, hw⟩
      cases hw
      rfl
  | false =>
    rw [Action.on_bind_error hfind]
    constructor
    · intro hcreate
      cases hcreate
    · rintro ⟨-, hw⟩
      cases hw

/-- What a run answers when the program has ended that it has started on a script. A file of
its own is discarded then. -/
def ended (h : Host (StateM W)) (r : Runner) (s : Script) (path : Path) (own : Bool)
    (answer : Except Fault Finish × W) : Except Error TestResult × W :=
  ((answer.1.mapError .io).map fun finish =>
      ⟨s.descriptor, outcomeOf r.settings.timeout finish.exit, finish.hundredths⟩,
    if own then (h.discard path answer.2).2 else answer.2)

/-- A script that has been written is started with the program of the runner, in the
directory of the settings. -/
theorem on_run {r : Runner} {program : Path} (hprogram : r.interpreter = some program)
    {s : Script} {path : Path} {own : Bool} {w w' : W}
    (hpersist : (r.persist h s.text).on w = (.ok (path, own), w')) :
    (r.run h s).on w = r.ended h s path own
      (h.start ⟨program, path, startDir r.settings, r.settings.timeout⟩ w') := by
  rw [run, hprogram]
  dsimp only
  rw [Action.on_bind_ok hpersist]
  dsimp only
  rw [Action.on_bind_ok (Action.on_lift (h.start _) w'), ← startDir]
  -- What the program has done is up to the host, and only its answer is looked at.
  generalize h.start ⟨program, path, startDir r.settings, r.settings.timeout⟩ w' = answer
  obtain ⟨answer, w''⟩ := answer
  cases own <;> cases answer <;> rfl

open Sandbox (Course Location Machine ancestor home programAt?)
open Sandbox.Tree (Keeps)

/-- **When the interpreter that is started is the one that was checked.** Take an
interpreter setting that is a path, and a runner that could be created with it. Since then
files may have been written, but nothing has gone. The runner writes a script, and there is
the directory that it starts programs in.

Then the setting led somewhere when it was checked. The script is started with what it
leads to from that directory now. This is the same place just if the setting is absolute, or
it leads anywhere and that directory and the one of the check are below one directory at the
height that the setting goes up to. So it is the same place where both directories are one,
as they are if none is set. Where it leads nowhere the run is an error. The path of the
script leads to the same place from both. -/
theorem starts_checked_iff {settings : RunSettings} {r : Runner} {s : Script}
    {mc mc₀ mc₁ mc₂ : Machine}
    (hpath : 1 < (Path.mk settings.interpreter).components.length)
    (hcreate : (create Machine.host settings false).on mc = (.ok r, mc₀))
    (hkeeps : Keeps mc.tree mc₁.tree)
    (hnew : settings.scriptPath = none → mc₁.tree.get? mc₁.ownPlace ≠ some .directory)
    {script : Path} {own : Bool}
    (hpersist : (r.persist Machine.host s.text).on mc₁ = (.ok (script, own), mc₂))
    {dir : Location} (hdir : mc₂.tree.walk (startDir settings) = .ok dir)
    (hdirectory : mc₂.tree.get? dir = some .directory) :
    let program : Path := ⟨settings.interpreter⟩
    let height := (Course.ofPath program).up
    let found := (mc₂.tree.within dir).walk program
    let ran := (r.run Machine.host s).on mc₁
    ∃ checked, mc.tree.walk program = .ok checked ∧
      ran = r.ended Machine.host s script own (mc₂.startFound dir script found) ∧
      (found = .ok checked ↔ program.isAbsolute = true ∨
        ancestor height dir = ancestor height mc.tree.current ∧ ∃ place, found = .ok place) ∧
      (settings.workDir = none → dir = mc.tree.current) ∧
      (dir = mc.tree.current → found = .ok checked) ∧
      (∀ fault, found = .error fault → ran.1 = .error (.io fault)) ∧
      (mc₂.tree.within dir).walk script = mc₂.tree.walk script := by
  intro program height found ran
  obtain ⟨rfl, hexists⟩ := (create_eq_ok_iff hpath).mp hcreate
  obtain ⟨hscript, hwritten⟩ := Machine.persist_keeps hnew hpersist
  have hall : Keeps mc.tree mc₂.tree := hkeeps.trans hwritten
  -- The check has found something there, so the path leads to a place.
  obtain ⟨checked, hchecked⟩ := Sandbox.Tree.exists_walk_of_find? (congrArg Prod.fst hexists)
  -- The program is looked up in the directory of the start, with the path of the settings.
  have hran : ran = ended Machine.host ⟨settings, some program⟩ s script own
      (mc₂.startFound dir script found) := by
    rw [← Machine.start_eq (l := ⟨program, script, startDir settings, settings.timeout⟩)
      (Sandbox.Tree.pathFault?_of_walk hchecked) hdir hdirectory]
    exact on_run rfl hpersist
  refine ⟨checked, hchecked, hran, Sandbox.Tree.walk_within_agree_iff hchecked hall dir,
    fun hnone => ?_, fun hhere => ?_, fun fault hfault => ?_,
    Sandbox.Tree.walk_within_of_isAbsolute hscript _ _⟩
  · rw [startDir, hnone] at hdir
    rw [Sandbox.Tree.eq_current_of_walk hdir, hall.current]
  · -- The tree is seen from where it was seen before.
    have hsame : mc₂.tree.within dir = mc₂.tree := by
      rw [hhere, ← hall.current]
      rfl
    show (mc₂.tree.within dir).walk program = .ok checked
    rw [hsame]
    exact hall.walk hchecked
  · rw [hran, hfault]
    rfl

/-- `starts_checked_iff` where the interpreter is up and down again, and both directories
are right below the one that it goes up to. -/
theorem starts_checked_iff_beside :
    let settings : RunSettings := { interpreter := "../bin/bash", workDir := some ⟨"/usr"⟩ }
    let mc : Machine := { Machine.bare with tree := Machine.bare.tree.within ["tmp"] }
    let s : Script := .ofBinding "m" .empty [] ⟨[]⟩
    let r : Runner := ⟨settings, some ⟨settings.interpreter⟩⟩
    let mc₂ : Machine := (mc.scratch s.text).2
    let found := (mc₂.tree.within ["usr"]).walk ⟨settings.interpreter⟩
    1 < (Path.mk settings.interpreter).components.length ∧
    (create Machine.host settings false).on mc = (.ok r, mc) ∧ Keeps mc.tree mc.tree ∧
    (settings.scriptPath = none ∧ mc.tree.get? mc.ownPlace ≠ some .directory) ∧
    (r.persist Machine.host s.text).on mc = (.ok (Sandbox.pathTo mc.ownPlace, true), mc₂) ∧
    mc₂.tree.walk (startDir settings) = .ok ["usr"] ∧
    mc₂.tree.get? ["usr"] = some .directory ∧
    found = .ok ["bin", "bash"] ∧
    ∃ checked, mc.tree.walk ⟨settings.interpreter⟩ = .ok checked ∧ found = .ok checked := by
  intro settings mc s r mc₂ found
  have hpath : 1 < (Path.mk settings.interpreter).components.length := by decide
  have hcreate : (create Machine.host settings false).on mc = (.ok r, mc) :=
    (create_eq_ok_iff hpath).mpr ⟨rfl, Prod.ext (by decide +kernel) rfl⟩
  have hnew : mc.tree.get? mc.ownPlace ≠ some .directory := by decide +kernel
  have hpersist : (r.persist Machine.host s.text).on mc
      = (.ok (Sandbox.pathTo mc.ownPlace, true), mc₂) := rfl
  have hdir : mc₂.tree.walk (startDir settings) = .ok ["usr"] := by decide +kernel
  have hdirectory : mc₂.tree.get? ["usr"] = some .directory := by decide +kernel
  have hfound : found = .ok ["bin", "bash"] := by decide +kernel
  obtain ⟨checked, hchecked, -, hiff, -⟩ := starts_checked_iff hpath hcreate (Keeps.refl mc.tree)
    (fun _ => hnew) hpersist hdir hdirectory
  exact ⟨hpath, hcreate, Keeps.refl _, ⟨rfl, hnew⟩, hpersist, hdir, hdirectory, hfound, checked,
    hchecked, hiff.mpr (.inr ⟨by decide +kernel, _, hfound⟩)⟩

/-- From the root directory and from `/usr` one relative path leads to two programs. -/
example :
    (Machine.bare.tree.within []).walk ⟨"bin/bash"⟩ = .ok ["bin", "bash"] ∧
      (Machine.bare.tree.within ["usr"]).walk ⟨"bin/bash"⟩ = .ok ["usr", "bin", "bash"] := by
  decide +kernel

/-- A relative path to the interpreter that is found in the current directory when the runner
is created. In the directory that is set its first step is missing: it leads nowhere, and the
script is not run, though the program is there. -/
theorem checked_interpreter_lost :
    let settings : RunSettings := {
      interpreter := "tools/../../../../../../../../../../bin/bash"
      workDir := some ⟨"sub"⟩ }
    let mc : Machine := { Machine.bare with
      tree := (Machine.bare.tree.addAt ⟨"tools"⟩ .directory).addAt ⟨"sub"⟩ .directory }
    let s : Script := .ofBinding "root" .empty (Text.encode "echo hi\n") ⟨[]⟩
    let r : Runner := ⟨settings, some ⟨settings.interpreter⟩⟩
    1 < (Path.mk settings.interpreter).components.length ∧
    mc.tree.walk ⟨settings.interpreter⟩ = .ok ["bin", "bash"] ∧
    (programAt? ["bin", "bash"]).isSome ∧
    (create Machine.host settings false).on mc = (.ok r, mc) ∧
    mc.tree.walk (startDir settings) = .ok (home ++ ["sub"]) ∧
    (mc.tree.within (home ++ ["sub"])).walk ⟨settings.interpreter⟩ = .error .notFound ∧
    ((r.run Machine.host s).on mc).1 = .error (.io .notFound) := by
  intro settings mc s r
  have hpath : 1 < (Path.mk settings.interpreter).components.length := by decide
  exact ⟨hpath, by decide +kernel, by decide +kernel,
    (create_eq_ok_iff hpath).mpr ⟨rfl, Prod.ext (by decide +kernel) rfl⟩, by decide +kernel,
    by decide +kernel, by decide +kernel⟩

end Runner

end ScriptMatrix
