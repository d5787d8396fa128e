import ScriptMatrix.Proofs.CommandLine.Acceptance
import ScriptMatrix.Proofs.Script.Names
import ScriptMatrix.Sandbox.Machine

/-!
# `ScriptMatrix.Proofs.CommandLine.Refusal`: an invalid override stops a command

A command that takes overrides adds them to each script before it does anything
else with it. The overrides are the same for every script, so it is the first
script that is refused, and the visit ends there (`on_visitEach_refused`).

`Mode` lists the ways in which scripts with overrides are used. A way has needs of
its own (`Mode.prepare`), and it may show something in front of its scripts and
behind them (`Mode.begun`, `Mode.ended`). `perform_refuses_invalid` says for all
ways what an invalid override does, and that valid ones are never refused.
-/

set_option autoImplicit false

namespace ScriptMatrix

namespace CommandLine

open Sandbox (Machine)

/-- The ways in which scripts with overrides are used: they are printed, written to a
directory, or run. Listing them lets `perform_refuses_invalid` speak of all commands at
once. -/
inductive Mode where
  | print
  | write (dir : Path)
  | run (dryRun failFast : Bool) (timeout : Option Nat) (interpreter : Option String)

section
variable {W : Type} (h : Host (StateM W)) (settings : Settings) (color : Bool)

namespace Mode

/-- The command that uses the scripts of a document in some way. -/
def command (file : Path) (filter : FilterRequest) (params : List String) : Mode → Command
  | .print => .render file filter params none
  | .write dir => .render file filter params (some dir)
  | .run dryRun failFast timeout interpreter =>
    .run file filter params dryRun failFast timeout interpreter

/-- What is needed first: a directory to write to, or a program to run scripts with. It may
fail, and then the command does so before it comes to its scripts. -/
def prepare : Mode → Action (StateM W) Unit
  | .print => return ()
  | .write dir => Action.ofFault (h.makeDirectories dir)
  | .run dryRun _ timeout interpreter => do
    let _ ← Runner.create h (adjust settings.run timeout interpreter) dryRun

/-- The world after what is shown in front of the scripts of a matrix. Only a run shows
something there, which is its heading. -/
def begun (name : String) (w : W) : Mode → W
  | .run .. => h.shown (Report.heading (color && settings.color) name) w
  | _ => w

/-- The world after what is shown behind no scripts at all. -/
def ended (w : W) : Mode → W
  | .run .. => h.shown (Report.summary (color && settings.color) {}) w
  | _ => w

/-- What a command does once it has its matrix and its filter. `perform` is this behind the
reading of both (`perform_command`). -/
def carryOut (mx : Matrix) (filter : Option Filter) (params : List String) :
    Mode → Action (StateM W) Bool
  | .print => do render h mx filter params none; return true
  | .write dir => do render h mx filter params (some dir); return true
  | .run dryRun failFast timeout interpreter => do
    let runner ← Runner.create h (adjust settings.run timeout interpreter) dryRun
    let sum ← runner.runMatrix h mx filter params failFast (color && settings.color)
    return sum.success

end Mode

/-- A command reads its document and its filter, and goes on with its scripts. All three
commands do so in the same order, hence the `rfl` for each. -/
theorem perform_command (mode : Mode) (file : Path) (filter : FilterRequest)
    (params : List String) :
    perform h settings color (mode.command file filter params)
      = readMatrix h file >>= fun mx => (filterFor filter : Except Error _) >>= fun f =>
          mode.carryOut h settings color mx f params := by
  cases mode <;> rfl

/-! ### Rounds -/

/-- A round of a rendering: the overrides are added first, then the script is written or
shown. `Runner.runNext` is such a round of a run. -/
def renderRound (params : List String) (dir : Option Path) (s : Script) (taken : PathSet) :
    Action (StateM W) (Bool × PathSet) := do
  let s ← (s.append params : Except Error Script)
  match dir with
  | some d => return (true, ← writeScript h d s taken)
  | none =>
    showScript h s
    return (true, taken)

/-- Makes the directory to write to, if there is one. -/
def makeRoom : Option Path → Action (StateM W) Unit
  | some d => Action.ofFault (h.makeDirectories d)
  | none => return ()

variable {h settings color} {params : List String} {mx : Matrix} {filter : Option Filter}
  {w w' : W} {e : Error}

/-- A rendering goes through its rounds once there is a directory. So what is proved of
visits holds of it, and of runs, which are visits as well. -/
theorem render_eq_visitEach (dir : Option Path) :
    render h mx filter params dir
      = (makeRoom h dir >>= fun _ =>
          Matrix.visitEach (renderRound h params dir) (mx.scripts filter) PathSet.empty
            >>= fun _ => pure () : Action (StateM W) Unit) := by
  rw [Matrix.scripts_eq_matching, ← Matrix.visit_eq]
  cases dir <;> rfl

/-- The first script is refused, and no other is looked at. The error and the world are
those of the first round, since every round would be refused. -/
theorem on_visitEach_refused {σ : Type} {round : Script → σ → Action (StateM W) (Bool × σ)}
    (hround : ∀ s state, (round s state).on w = (.error e, w)) {scripts : List Script}
    (hne : scripts ≠ []) (state : σ) :
    (Matrix.visitEach round scripts state).on w = (.error e, w) := by
  obtain ⟨s, rest, rfl⟩ := List.exists_cons_of_ne_nil hne
  exact Action.on_bind_error (hround s state)

/-- A run that is prepared has a runner, the one that `carryOut` then makes in the same
world. -/
theorem on_create {dryRun failFast : Bool} {timeout : Option Nat} {interpreter : Option String}
    (hprepare : ((Mode.run dryRun failFast timeout interpreter).prepare h settings).on w
      = (.ok (), w')) :
    ∃ runner, (Runner.create h (adjust settings.run timeout interpreter) dryRun).on w
      = (.ok runner, w') := by
  cases hcreate : (Runner.create h (adjust settings.run timeout interpreter) dryRun).on w with
  | mk answer w₁ =>
    cases answer with
    | ok runner =>
      have hsame := (Action.on_bind_ok hcreate).symm.trans hprepare
      exact ⟨runner, by cases hsame; rfl⟩
    | error e =>
      have hsame := (Action.on_bind_error hcreate).symm.trans hprepare
      cases hsame

section
variable (hrefused : ∀ s : Script, s.append params = .error e)
include hrefused

/-- A round of a rendering does nothing with a script that is refused. -/
theorem on_renderRound_refused (dir : Option Path) (s : Script) (taken : PathSet) :
    (renderRound h params dir s taken).on w = (.error e, w) := by
  rw [renderRound, hrefused s]
  exact Action.on_bind_error (Action.on_except _ w)

/-- A round of a run does nothing with it either: no file is written, nothing is started and
no line is shown. -/
theorem on_runNext_refused (r : Runner) (failFast : Bool) (s : Script) (sum : Summary) :
    (r.runNext h params failFast color s sum).on w = (.error e, w) := by
  rw [Runner.runNext, hrefused s]
  exact Action.on_bind_error (Action.on_except _ w)

/-- If every script refuses the overrides and there is one, the command fails with that
error. The world is the one in front of the scripts. -/
theorem on_carryOut_refused {mode : Mode} (hprepare : (mode.prepare h settings).on w = (.ok (), w'))
    (hne : mx.scripts filter ≠ []) :
    (mode.carryOut h settings color mx filter params).on w
      = (.error e, mode.begun h settings color mx.name w') := by
  -- Both renderings are rounds behind the making of a directory, or of none.
  have hrender : ∀ dir, (makeRoom h dir).on w = (.ok (), w') →
      (render h mx filter params dir).on w = (.error e, w') := fun dir hroom => by
    rw [render_eq_visitEach, Action.on_bind_ok hroom]
    exact Action.on_bind_error (on_visitEach_refused (on_renderRound_refused hrefused dir) hne _)
  cases mode with
  | print => exact Action.on_bind_error (hrender none hprepare)
  | write dir => exact Action.on_bind_error (hrender (some dir) hprepare)
  | run dryRun failFast timeout interpreter =>
    obtain ⟨runner, hcreate⟩ := on_create hprepare
    have hrun : (runner.runMatrix h mx filter params failFast (color && settings.color)).on w'
        = (.error e, h.shown (Report.heading (color && settings.color) mx.name) w') := by
      rw [Runner.runMatrix, Action.on_bind_ok (Runner.on_say h _ w'), Matrix.visit_eq,
        ← Matrix.scripts_eq_matching]
      exact Action.on_bind_error
        (on_visitEach_refused (on_runNext_refused hrefused runner failFast) hne _)
    show Action.on (_ >>= _) w = _
    rw [Action.on_bind_ok hcreate]
    exact Action.on_bind_error hrun

end

/-- If no script matches, the overrides do not matter: there is no round, and they are
looked at nowhere else. -/
theorem on_carryOut_nothing {mode : Mode} (hprepare : (mode.prepare h settings).on w = (.ok (), w'))
    (hnone : mx.scripts filter = []) :
    (mode.carryOut h settings color mx filter params).on w
      = (.ok true, mode.ended h settings color (mode.begun h settings color mx.name w')) := by
  have hrender : ∀ dir, (makeRoom h dir).on w = (.ok (), w') →
      (render h mx filter params dir).on w = (.ok (), w') := fun dir hroom => by
    rw [render_eq_visitEach, Action.on_bind_ok hroom, hnone]
    rfl
  cases mode with
  | print => exact Action.on_bind_ok (hrender none hprepare)
  | write dir => exact Action.on_bind_ok (hrender (some dir) hprepare)
  | run dryRun failFast timeout interpreter =>
    obtain ⟨runner, hcreate⟩ := on_create hprepare
    -- A run without rounds leaves the summary and the world as they are in front of it.
    have hloop : (Matrix.visitEach
        (runner.runNext h params failFast (color && settings.color)) (mx.matching filter) {}).on
        (h.shown (Report.heading (color && settings.color) mx.name) w')
        = (.ok {}, h.shown (Report.heading (color && settings.color) mx.name) w') := by
      rw [← Matrix.scripts_eq_matching, hnone]
      rfl
    have hrun := Runner.on_runMatrix (color && settings.color) mx filter failFast w' hloop
    show Action.on (_ >>= _) w = _
    rw [Action.on_bind_ok hcreate]
    exact Action.on_bind_ok hrun

variable (h settings color) in
/-- With valid overrides a command is not refused, whatever else goes wrong. It is
`Accepting` part by part: the reading of its matrix and its filter, then the rounds of its
mode. -/
theorem accepting_perform (mode : Mode) (file : Path) (request : FilterRequest)
    (hvalid : ∀ p ∈ params, ∃ e, Script.IsOverride p e) :
    Accepting (perform h settings color (mode.command file request params)) := by
  have hrender : ∀ mx filter dir, Accepting (render h mx filter params dir) :=
    fun mx filter dir => by
      -- A round adds the overrides and then only writes and shows.
      have hround : ∀ s taken, Accepting (renderRound h params dir s taken) := fun s taken => by
        refine .bind (.except (Script.accepted_append hvalid s)) fun s' => ?_
        cases dir with
        | some d =>
          have hwrite : Accepting (writeScript h d s' taken) :=
            .bind (.ofFault _) fun _ => .bind (Runner.accepting_say h _) fun _ => .pure _
          exact .bind hwrite fun _ => .pure _
        | none => exact .bind (.lift _) fun _ => .pure _
      rw [render_eq_visitEach]
      refine .bind ?_ fun _ => .bind (.visitEach hround _ _) fun _ => .pure _
      cases dir with
      | some d => exact .ofFault _
      | none => exact .pure _
  rw [perform_command]
  refine .bind ?_ fun mx => .bind (.except (accepted_filterFor request)) fun f => ?_
  · exact .bind (.lift _) fun fs => .except (Matrix.accepted_read fs file)
  · cases mode with
    | print => exact .bind (hrender mx f none) fun _ => .pure _
    | write dir => exact .bind (hrender mx f (some dir)) fun _ => .pure _
    | run dryRun failFast timeout interpreter =>
      refine .bind (Runner.accepting_create h _ _) fun runner => .bind ?_ fun _ => .pure _
      refine .bind (Runner.accepting_say h _) fun _ => .bind ?_ fun _ =>
        .bind (Runner.accepting_say h _) fun _ => .pure _
      rw [Matrix.visit_eq]
      exact .visitEach (fun s sum => Runner.accepting_runNext h runner hvalid _ _ s sum) _ _

/-- **An invalid override stops a command before anything happens.** Take a host
and a command that uses the scripts of a matrix in some way: it prints them,
writes them to a directory, or runs them, dry or not. Let the matrix and the
filter be read, and let the directory be made or the interpreter be found.

If some override is invalid, let `p` be the first that is. When a script matches
the filter, the command fails with `p`, and the world is the one before the first
script. When none matches, the command ends well as it does without overrides,
and nothing has been done.

If all overrides are valid, no command ever fails with an override, whatever else
goes wrong. -/
theorem perform_refuses_invalid (h : Host (StateM W)) (settings : Settings) (color : Bool)
    (mode : Mode) (file : Path) (request : FilterRequest) (params : List String) :
    let perform := fun params => perform h settings color (mode.command file request params)
    ((∃ p ∈ params, ¬∃ e, Script.IsOverride p e) →
      ∀ mx filter w w₁ w₂, (readMatrix h file).on w = (.ok mx, w₁) →
        filterFor request = .ok filter → (mode.prepare h settings).on w₁ = (.ok (), w₂) →
      let begun := mode.begun h settings color mx.name w₂
      ∃ front p back, params = front ++ p :: back ∧
        (∀ q ∈ front, ∃ e, Script.IsOverride q e) ∧ (¬∃ e, Script.IsOverride p e) ∧
        (mx.scripts filter ≠ [] → (perform params).on w = (.error (.invalidOverride p), begun)) ∧
        (mx.scripts filter = [] →
          (perform params).on w = (.ok true, mode.ended h settings color begun) ∧
          (perform []).on w = (perform params).on w)) ∧
    ((∀ p ∈ params, ∃ e, Script.IsOverride p e) →
      ∀ w text, ((perform params).on w).1 ≠ .error (.invalidOverride text)) := by
  intro perform
  refine ⟨fun hinvalid mx filter w w₁ w₂ hmatrix hfilter hprepare => ?_,
    fun hvalid => accepting_perform h settings color mode file request hvalid⟩
  intro begun
  -- Once matrix and filter are there, a command is what its way does with them.
  have hperform : ∀ params, (perform params).on w
      = (mode.carryOut h settings color mx filter params).on w₁ := fun params => by
    show (CommandLine.perform h settings color (mode.command file request params)).on w = _
    rw [perform_command, Action.on_bind_ok hmatrix, hfilter,
      Action.on_bind_ok (Action.on_except _ w₁)]
  cases hread : Script.readOverrides params with
  | ok entries =>
    obtain ⟨p, hp, hform⟩ := hinvalid
    exact absurd (Script.exists_readOverrides_iff.mp ⟨entries, hread⟩ p hp) hform
  | error fault =>
    obtain ⟨front, p, back, hparams, hfront, hp, rfl⟩ := Script.readOverrides_eq_error_iff.mp hread
    -- No script has a part in whether the overrides are read, so they are refused by all.
    have hrefused : ∀ s : Script, s.append params = .error (.invalidOverride p) := fun s => by
      rw [Script.append, hread]
      rfl
    refine ⟨front, p, back, hparams, hfront, hp, fun hne => ?_, fun hnone => ⟨?_, ?_⟩⟩
    · rw [hperform, on_carryOut_refused hrefused hprepare hne]
    · rw [hperform, on_carryOut_nothing hprepare hnone]
    · rw [hperform, hperform, on_carryOut_nothing hprepare hnone,
        on_carryOut_nothing hprepare hnone]

end

/-- A machine reads matrices from its files, and is not changed by that. -/
theorem on_readMatrix (file : Path) (mc : Machine) :
    (readMatrix Machine.host file).on mc = (Matrix.read mc.tree.files file, mc) :=
  Action.on_except (Matrix.read mc.tree.files file) mc

/-- `perform_refuses_invalid` on a machine with a document, where the second of
three overrides is the first invalid one. Whatever is to be done with the
scripts, at most the heading of a run is shown. With a filter that chooses none
of them the command ends well. -/
theorem perform_refuses_invalid_second :
    let mc : Machine := { Machine.bare with
      tree := Machine.bare.tree.put ["tmp", "work", "m.ms"]
        (.file (Text.encode "params:\na: [1]\nend\n")) }
    let perform := fun mode request params =>
      (perform Machine.host {} false (Mode.command ⟨"m.ms"⟩ request params mode)).on mc
    (∃ p ∈ ["x=1", "1x=1", ""], ¬∃ e, Script.IsOverride p e) ∧
    (∀ p ∈ ["x=1"], ∃ e, Script.IsOverride p e) ∧
    (∀ mode ∈ [Mode.print, .write ⟨"out"⟩, .run false false none none, .run true true none none],
      ∃ mc', (mode.prepare Machine.host {}).on mc = (.ok (), mc') ∧
        perform mode ⟨none, false⟩ ["x=1", "1x=1", ""]
          = (.error (.invalidOverride "1x=1"), mode.begun Machine.host {} false "m" mc') ∧
        (perform mode ⟨some "b", true⟩ ["x=1", "1x=1", ""]).1 = .ok true ∧
        ∀ text, (perform mode ⟨none, false⟩ ["x=1"]).1 ≠ .error (.invalidOverride text)) := by
  intro mc perform
  have hinvalid : ∃ p ∈ ["x=1", "1x=1", ""], ¬∃ e, Script.IsOverride p e :=
    ⟨"1x=1", by decide, Script.override?_eq_none_iff.mp (by decide)⟩
  have hvalid : ∀ p ∈ ["x=1"], ∃ e, Script.IsOverride p e :=
    Script.exists_readOverrides_iff.mp ⟨[("x", "1")], by decide⟩
  let mx : Matrix := ⟨"m", ⟨"m.ms"⟩, ⟨[⟨"a", ["1"]⟩]⟩, .empty, []⟩
  have hread : Matrix.read mc.tree.files ⟨"m.ms"⟩ = .ok mx := by decide +kernel
  have hmatrix : (readMatrix Machine.host ⟨"m.ms"⟩).on mc = (.ok mx, mc) := by
    rw [← hread]
    exact on_readMatrix ⟨"m.ms"⟩ mc
  refine ⟨hinvalid, hvalid, fun mode hmode => ?_⟩
  obtain ⟨mc', hprepare⟩ : ∃ mc', (mode.prepare Machine.host {}).on mc = (.ok (), mc') := by
    have hok : ∀ mode ∈ [Mode.print, .write ⟨"out"⟩, .run false false none none,
        .run true true none none], ((mode.prepare Machine.host {}).on mc).1 = .ok () := by
      simp only [List.forall_mem_cons]
      refine ⟨?_, ?_, ?_, ?_, fun _ h => absurd h List.not_mem_nil⟩ <;> decide +kernel
    exact ⟨_, Prod.ext (hok mode hmode) rfl⟩
  have hrefusal := perform_refuses_invalid Machine.host {} false mode ⟨"m.ms"⟩
  obtain ⟨front, p, back, hparams, hfront, hp, hrefused, -⟩ :=
    (hrefusal ⟨none, false⟩ _).1 hinvalid mx none mc mc mc' hmatrix rfl hprepare
  obtain ⟨-, -, -, -, -, -, -, hnothing⟩ :=
    (hrefusal ⟨some "b", true⟩ _).1 hinvalid mx (some (.substring "b")) mc mc mc' hmatrix rfl
      hprepare
  -- The first invalid override is a fact about the list alone.
  have hfirst : p = "1x=1" := by
    have hfault := Script.readOverrides_eq_error_iff.mpr
      ⟨front, p, back, hparams, hfront, hp, rfl⟩
    have hsecond : Script.readOverrides ["x=1", "1x=1", ""] = .error (.invalidOverride "1x=1") := by
      decide
    cases hfault.symm.trans hsecond
    rfl
  exact ⟨mc', hprepare, hfirst ▸ hrefused (by decide +kernel),
    congrArg Prod.fst (hnothing (by decide +kernel)).1, (hrefusal ⟨none, false⟩ _).2 hvalid mc⟩

end CommandLine

end ScriptMatrix
