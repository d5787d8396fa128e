import ScriptMatrix.CommandLine
import ScriptMatrix.Proofs.Run.Machine
import ScriptMatrix.Proofs.Run.Play

/-!
# `ScriptMatrix.Proofs.Files.Render`: rendered scripts do not replace each other

Rendering to a directory goes through rounds. `renderNext_cases` says what one
round does to a machine: it writes one file and shows its path, or ends with the
fault of the write. From it, `render_cases` says that all of them are the writes
of `FileName.assign`, one after the other.

`render_keeps_apart` is the main fact: when no write fails, every script is read
back from the path that was shown for it, and nothing else has changed. The paths
are different before anything is written (`FileName.nodup_assign`), and different
paths in one directory are different places (`Tree.walk_injective`).

A device loses what is written to it. So the machine may have no device that is
named like a script; a new machine has none (`devicesApart_bare`).
-/

set_option autoImplicit false

namespace ScriptMatrix.CommandLine

open Sandbox (Machine Tree)

/-- A round of a rendering to a directory: the overrides are put on, and the script is
written to a file that is not taken. -/
def renderNext {m : Type → Type} [Monad m] (h : Host m) (params : List String) (dir : Path)
    (s : Script) (taken : PathSet) : Action m (Bool × PathSet) := do
  let s ← (s.append params : Except Error Script)
  return (true, ← writeScript h dir s taken)

/-- The line that shows a path. -/
def pathLine (p : Path) : Bytes := Text.encode (p.text ++ "\n")

variable (mc : Machine) (dir : Path) {params : List String}

/-- Writing a script shows its path, unless the write fails. If it fails, the machine is as
before. -/
theorem writeScript_cases (s : Script) (taken : PathSet) :
    let unique := FileName.unique dir s.descriptor taken
    (∃ fault, (writeScript Machine.host dir s taken).on mc = (.error (.io fault), mc)) ∨
    ∃ t, mc.tree.write unique.1 s.text = .ok t ∧
      (writeScript Machine.host dir s taken).on mc =
        (.ok unique.2, { mc with tree := t, shown := mc.shown ++ pathLine unique.1 }) := by
  intro unique
  have hsteps : writeScript Machine.host dir s taken = do
      Action.ofFault fun mc : Machine => mc.change (·.write unique.1 s.text)
      Runner.say Machine.host (unique.1.text ++ "\n")
      return unique.2 := rfl
  rw [hsteps]
  cases hwrite : mc.tree.write unique.1 s.text with
  | error fault => exact .inl ⟨fault, Action.on_bind_error (Machine.on_change_error hwrite)⟩
  | ok t =>
    refine .inr ⟨t, rfl, ?_⟩
    rw [Action.on_bind_ok (Machine.on_change_ok hwrite)]
    rfl

/-- A round writes the script with the overrides. These are valid (`happend`), so the write
is all that can fail. -/
theorem renderNext_cases {s s' : Script} (happend : s.append params = .ok s') (taken : PathSet) :
    let unique := FileName.unique dir s'.descriptor taken
    (∃ fault, (renderNext Machine.host params dir s taken).on mc = (.error (.io fault), mc)) ∨
    ∃ t, mc.tree.write unique.1 s'.text = .ok t ∧
      (renderNext Machine.host params dir s taken).on mc =
        (.ok (true, unique.2), { mc with tree := t, shown := mc.shown ++ pathLine unique.1 }) := by
  intro unique
  rw [renderNext, happend, Action.on_bind_ok (Action.on_except _ mc)]
  rcases writeScript_cases mc dir s' taken with ⟨fault, h⟩ | ⟨t, hwrite, h⟩
  · exact .inl ⟨fault, Action.on_bind_error h⟩
  · exact .inr ⟨t, hwrite, Action.on_bind_ok h⟩

/-- The rounds write one script after the other and show the paths, unless a write fails.
What is taken goes from round to round as in `FileName.assign`, which names the files
beforehand. -/
theorem visitEach_cases {matching scripts : List Script}
    (hcarry : List.Forall₂ (fun s s' => s.append params = .ok s') matching scripts)
    (taken : PathSet) :
    let paths := FileName.assign dir (scripts.map (·.descriptor)) taken
    (∃ fault, ((Matrix.visitEach (renderNext Machine.host params dir) matching taken).on mc).1
      = .error (.io fault)) ∨
    ∃ taken' t, Tree.Writes mc.tree (paths.zip (scripts.map (·.text))) t ∧
      (Matrix.visitEach (renderNext Machine.host params dir) matching taken).on mc =
        (.ok taken', { mc with tree := t, shown := mc.shown ++ paths.flatMap pathLine }) := by
  induction hcarry generalizing taken mc with
  | nil =>
    refine .inr ⟨taken, mc.tree, .nil _, ?_⟩
    simp only [List.map_nil, FileName.assign, List.flatMap_nil, List.append_nil]
    rfl
  | @cons s s' matching scripts happend _ ih =>
    intro paths
    rw [Matrix.visitEach]
    -- A write that fails ends the rounds. One that works leaves the rest on the machine
    -- with the new file, where `ih` applies.
    rcases renderNext_cases mc dir happend taken with ⟨fault, h⟩ | ⟨t, hwrite, h⟩
    · exact .inl ⟨fault, congrArg Prod.fst (Action.on_bind_error h)⟩
    · rw [Action.on_bind_ok h]
      rcases ih { mc with tree := t, shown := _ } _ with ⟨fault, h⟩ | ⟨taken', t', hwrites, h⟩
      · exact .inl ⟨fault, h⟩
      · refine .inr ⟨taken', t', .cons hwrite hwrites, h.trans ?_⟩
        simp only [paths, List.map_cons, FileName.assign, List.flatMap_cons, List.append_assoc]

/-- Rendering makes the directory and writes the scripts, unless one of these fails. From
here on the rest is about `Tree.Writes`. -/
theorem render_cases (mx : Matrix) (filter : Option Filter) {scripts : List Script}
    (hcarry : List.Forall₂ (fun s s' => s.append params = .ok s') (mx.scripts filter) scripts) :
    let paths := FileName.assign dir (scripts.map (·.descriptor)) PathSet.empty
    (∃ fault, ((render Machine.host mx filter params (some dir)).on mc).1 = .error (.io fault)) ∨
    ∃ t₀ t, mc.tree.makeDirectories dir = .ok t₀ ∧
      Tree.Writes t₀ (paths.zip (scripts.map (·.text))) t ∧
      (render Machine.host mx filter params (some dir)).on mc =
        (.ok (), { mc with tree := t, shown := mc.shown ++ paths.flatMap pathLine }) := by
  intro paths
  have hsteps : render Machine.host mx filter params (some dir) = do
      Action.ofFault fun mc : Machine => mc.change (·.makeDirectories dir)
      let _ ← mx.visit filter (renderNext Machine.host params dir) PathSet.empty
      return () := rfl
  rw [Matrix.scripts_eq_matching] at hcarry
  rw [hsteps, Matrix.visit_eq]
  cases hmake : mc.tree.makeDirectories dir with
  | error fault =>
    exact .inl ⟨fault, congrArg Prod.fst (Action.on_bind_error (Machine.on_change_error hmake))⟩
  | ok t₀ =>
    -- The directory is made, and nothing is shown for that. The rounds start with no path
    -- taken.
    rw [Action.on_bind_ok (Machine.on_change_ok hmake)]
    rcases visitEach_cases { mc with tree := t₀ } dir hcarry PathSet.empty with
      ⟨fault, h⟩ | ⟨taken', t, hwrites, h⟩
    · exact .inl ⟨fault, congrArg Prod.fst (Action.on_bind_error (Prod.ext h rfl))⟩
    · exact .inr ⟨t₀, t, rfl, hwrites, Action.on_bind_ok h⟩

/-- The devices of a new machine have other names. -/
theorem devicesApart_bare : Machine.bare.tree.DevicesApart :=
  Tree.devicesApart_of_entries (by decide +kernel)

/-- **No script replaces another.** Take a machine without devices that are
named like scripts, a matrix, a filter, overrides that are valid and a
directory, and let no file operation of the rendering fail. The scripts with
the overrides are those that the filter chooses, in order.

Then the rendering ends well and shows one path for each of them. The paths are
pairwise different and directly in the directory. Each is named after the
descriptor of its script, with a number up to the number of scripts if the name
was taken. Afterwards the file at each path holds the text of its script, and
at any other place all is as before, unless a directory was made there. -/
theorem render_keeps_apart (mc : Machine) (hdevices : mc.tree.DevicesApart) (mx : Matrix)
    (filter : Option Filter) {params : List String}
    (hvalid : ∀ p ∈ params, ∃ e, Script.IsOverride p e) (dir : Path)
    (hio : ∀ fault, ((render Machine.host mx filter params (some dir)).on mc).1
      ≠ .error (.io fault)) :
    ∃ scripts paths mc',
      List.Forall₂ (fun s s' => s.append params = .ok s') (mx.scripts filter) scripts ∧
      (render Machine.host mx filter params (some dir)).on mc = (.ok (), mc') ∧
      mc'.shown = mc.shown ++ paths.flatMap pathLine ∧
      (paths.map Path.components).Nodup ∧
      (∀ p ∈ paths, ∃ f, p.components = dir.components ++ [.name f]) ∧
      List.Forall₂ (fun p (s : Script) => p = FileName.ofDescriptor dir s.descriptor ∨
        ∃ n, 2 ≤ n ∧ n ≤ scripts.length ∧ p = FileName.numbered dir s.descriptor n)
        paths scripts ∧
      List.Forall₂ (fun p (s : Script) => mc'.tree.read p = .ok s.text) paths scripts ∧
      ∀ place, (∀ p ∈ paths, mc'.tree.walk p ≠ .ok place) →
        mc'.tree.get? place = mc.tree.get? place ∨
          (mc.tree.get? place = none ∧ mc'.tree.get? place = some .directory) := by
  obtain ⟨scripts, hcarry, -⟩ := Runner.forall₂_append_of_valid hvalid (mx.scripts filter)
  -- The case with a fault is the one that `hio` excludes.
  rcases render_cases mc dir mx filter hcarry with ⟨fault, h⟩ | ⟨t₀, t, hmake, hwrites, h⟩
  · exact absurd h (hio fault)
  · have hgrows := Tree.makeDirectories_grows hmake
    -- `spec_assign` speaks of the tree behind `makeDirectories`, which `hgrows` compares
    -- with the first one.
    obtain ⟨hread, hothers⟩ :=
      hwrites.spec_assign (by rw [List.length_map, List.length_map]) (hdevices.grows hgrows)
    have hnames := FileName.assign_names dir (scripts.map (·.descriptor)) PathSet.empty
    rw [List.forall₂_map_right_iff] at hread hnames
    refine ⟨scripts, _, _, hcarry, h, rfl, FileName.nodup_assign dir _ _, fun p hp => ?_, ?_, hread,
      fun place hplace => ?_⟩
    · obtain ⟨cs, hcs, rfl⟩ := FileName.isScriptPath_of_mem_assign dir hp
      exact ⟨_, Path.components_join (FileName.isFileName_of_not_mem hcs) dir⟩
    · exact hnames.imp fun p s hname => by simpa [PathSet.size, PathSet.empty] using hname
    · have hsame := hothers place hplace
      exact (hgrows.get? place).imp hsame.trans (And.imp_right hsame.trans)

/-- `render_keeps_apart` on a new machine, where two descriptors are equal, and a
third one comes to the name that the second has with its number. -/
theorem render_keeps_apart_colliding :
    let mx : Matrix := ⟨"m", ⟨"m.ms"⟩, ⟨[⟨"p", ["a/b", "a/b", "a-b-2"]⟩]⟩, .empty, []⟩
    let rendering := (render Machine.host mx none ["x=1"] (some ⟨"out"⟩)).on Machine.bare
    Machine.bare.tree.DevicesApart ∧
    (∀ p ∈ ["x=1"], ∃ e, Script.IsOverride p e) ∧
    (∀ fault, rendering.1 ≠ .error (.io fault)) ∧
    ∃ scripts paths mc', scripts.length = 3 ∧ rendering = (.ok (), mc') ∧
      mc'.shown = paths.flatMap pathLine ∧
      mc'.shown = Text.encode "out/m-p=a-b.sh\nout/m-p=a-b-2.sh\nout/m-p=a-b-2-2.sh\n" ∧
      (paths.map Path.components).Nodup ∧
      List.Forall₂ (fun p (s : Script) => mc'.tree.read p = .ok s.text) paths scripts := by
  intro mx rendering
  have hvalid : ∀ p ∈ ["x=1"], ∃ e, Script.IsOverride p e :=
    Script.exists_readOverrides_iff.mp ⟨[("x", "1")], by decide⟩
  have hrun : rendering.1 = .ok () ∧ rendering.2.shown
      = Text.encode "out/m-p=a-b.sh\nout/m-p=a-b-2.sh\nout/m-p=a-b-2-2.sh\n" := by
    decide +kernel
  -- Whether a write fails can be seen by running it.
  have hio : ∀ fault, rendering.1 ≠ .error (.io fault) := fun fault h => by
    rw [hrun.1] at h
    cases h
  obtain ⟨scripts, paths, mc', hcarry, heq, hshown, hnodup, -, -, hread, -⟩ :=
    render_keeps_apart Machine.bare devicesApart_bare mx none hvalid ⟨"out"⟩ hio
  refine ⟨devicesApart_bare, hvalid, hio, scripts, paths, mc', ?_, heq, hshown, ?_, hnodup, hread⟩
  · rw [← hcarry.length_eq]
    rfl
  · rw [← hrun.2, show rendering = _ from heq]

end ScriptMatrix.CommandLine
