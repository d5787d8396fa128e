import ScriptMatrix.Proofs.Run.Play

/-!
# `ScriptMatrix.Proofs.Run.Account`: every script is run once and counted once

`runMatrix_accounts` is about one matrix run in three ways: plainly, with
fail-fast, and dry. The scripts played are the matching ones, in order and
with the overrides, each of them once; with fail-fast they are the first of
these up to the first failure; and a dry run shows a line for each and does
nothing else.

The host may be any on which scripts can be carried out at all (`Plays`). A
`Stage` is such a host: its programs are any function of the text of a script
and of a state that scripts can read and change (`Stage.plays`).
-/

set_option autoImplicit false

namespace ScriptMatrix

/-! ### A host for any program -/

/-- Files, a state that scripts can change, and what has been shown. The state is what a
script can find out about the scripts before it. -/
structure Stage (σ : Type) where
  state : σ
  files : Path → Bytes
  shown : Bytes

namespace Stage

variable {σ : Type}

/-- The stage with a file, where another may have been. -/
def put (w : Stage σ) (p : Path) (b : Bytes) : Stage σ :=
  { w with files := fun q => if q = p then b else w.files q }

/-- Where files of their own are. One place is enough, as every script is written before it
is started. -/
def ownPath : Path := ⟨"/tmp/script.sh"⟩

/-- A host with a stage, where scripts are carried out as a function says. The function has
the text of the script from its file, and not from the runner. -/
def host (carryOut : Bytes → σ → Finish × σ) : Host (StateM (Stage σ)) where
  currentDir := return ⟨"/"⟩
  files _ := return ⟨[], fun _ => none⟩
  pathExists _ := return true
  findProgram name := return some ⟨name⟩
  read p := fun w => (.ok (w.files p), w)
  write p b := fun w => (.ok (), w.put p b)
  makeDirectories _ := return .ok ()
  scratch b := fun w => (.ok ownPath, w.put ownPath b)
  discard _ := return ()
  start l := fun w =>
    let ended := carryOut (w.files l.script) w.state
    (.ok ended.1, { w with state := ended.2 })
  output b := fun w => ((), { w with shown := w.shown ++ b })

/-- Where a runner writes scripts on a stage. This is `Runner.scriptLocation` where the
current directory is the root. -/
def placeOf (settings : RunSettings) : Path :=
  match settings.scriptPath with
  | none => ownPath
  | some path =>
    if path.isAbsolute then path
    else (match settings.workDir with
      | some work => (Path.mk "/").join work.text
      | none => ⟨"/"⟩).join path.text

/-- A script is written, and carried out with the text that was written. -/
def play (carryOut : Bytes → σ → Finish × σ) (settings : RunSettings) (s : Script) (w : Stage σ) :
    Outcome × Nat × Stage σ :=
  let ended := carryOut s.text w.state
  (Runner.outcomeOf settings.timeout ended.1.exit, ended.1.hundredths,
    { w.put (placeOf settings) s.text with state := ended.2 })

/-- A runner writes scripts in their place, and no write fails. -/
theorem on_persist (carryOut : Bytes → σ → Finish × σ) (settings : RunSettings)
    (program : Option Path) (text : Bytes) (w : Stage σ) :
    (Runner.persist (host carryOut) ⟨settings, program⟩ text).on w
      = (.ok (placeOf settings, settings.scriptPath.isNone), w.put (placeOf settings) text) := by
  obtain ⟨interpreter, timeoutSeconds, scriptPath, workDir⟩ := settings
  cases scriptPath with
  | none => rfl
  | some path =>
    -- A path for scripts is taken as it is, or behind the directory of the settings.
    cases habsolute : path.isAbsolute <;>
      simp only [Runner.persist, Runner.scriptLocation, placeOf, habsolute] <;> rfl

/-- Showing text does not touch the state. -/
theorem state_shown (carryOut : Bytes → σ → Finish × σ) (text : String) (w : Stage σ) :
    ((host carryOut).shown text w).state = w.state := rfl

/-- Every runner with an interpreter plays scripts on a stage. So what is shown of runs by
`Plays` holds for any programs. -/
theorem plays (carryOut : Bytes → σ → Finish × σ) (settings : RunSettings) (program : Path) :
    Runner.Plays (host carryOut) (play carryOut settings) ⟨settings, some program⟩ := by
  intro s w
  let written := w.put (placeOf settings) s.text
  let launch : Launch :=
    ⟨program, placeOf settings, settings.workDir.getD ⟨"."⟩, settings.timeout⟩
  -- The script is read where it was written.
  have htext : written.files launch.script = s.text := if_pos rfl
  have hstart : (host carryOut).start launch written =
      (.ok (carryOut s.text w.state).1,
        { written with state := (carryOut s.text w.state).2 }) := by
    rw [← htext]
    rfl
  rw [Runner.run]
  dsimp only
  rw [Action.on_bind_ok (on_persist carryOut settings (some program) s.text w),
    Action.on_bind_ok (Action.on_lift ((host carryOut).start launch) written), hstart]
  cases settings.scriptPath <;> rfl

end Stage

namespace Runner

variable {W : Type} {h : Host (StateM W)} {r : Runner} {play : Script → W → Outcome × Nat × W}

/-- **A run accounts for every script.** Take a host on which a runner plays
every script, a matrix, the wanted descriptors, and overrides that are valid.
The scripts with the overrides are those that match, in order.

A plain run plays all of them. Its summary counts the results that passed and
those that were skipped and lists the failures in order; it counts as many as
there are scripts, and says success just if none failed.

With fail-fast the run plays the first scripts of the plain run: to the first
failure, or all of them. At most one failure is listed, that of the last
script, and success is as in the plain run.

A dry run shows its heading, a line for each script and the summary, and
leaves the world otherwise alone. It counts all scripts as skipped. -/
theorem runMatrix_accounts (hplays : r.Plays h play) (mx : Matrix) (wanted : String → Bool)
    {overrides : List String} (hvalid : ∀ p ∈ overrides, ∃ e, Script.IsOverride p e)
    (color : Bool) (w : W) :
    ∃ scripts,
      List.Forall₂ (fun s s' => s.append overrides = .ok s') (mx.matching wanted) scripts ∧
      let start := h.shown (Report.heading color mx.name) w
      let played := playAll h color play scripts start
      let sum := Summary.ofResults played.1
      ((r.runMatrix h mx wanted overrides false color).on w
          = (.ok sum, h.shown (Report.summary color sum) played.2) ∧
        played.1.map (·.descriptor) = (mx.matching wanted).map (·.descriptor) ∧
        sum.passed = played.1.countP (·.outcome == .passed) ∧
        sum.skipped = played.1.countP (·.outcome == .skipped) ∧
        sum.failed = (played.1.filter (!·.isGood)).map (·.descriptor) ∧
        sum.total = (mx.matching wanted).length ∧
        (sum.success = true ↔ ∀ x ∈ played.1, x.isGood = true)) ∧
      (∃ front back, scripts = front ++ back ∧
        let first := playAll h color play front start
        let firstSum := Summary.ofResults first.1
        first.1 <+: played.1 ∧ StopsAtFailure first.1 back ∧
        (r.runMatrix h mx wanted overrides true color).on w
          = (.ok firstSum, h.shown (Report.summary color firstSum)
              (if first.1.all (·.isGood) then first.2
                else h.shown (Report.stopping color) first.2)) ∧
        firstSum.failed.length ≤ 1 ∧
        (∀ d ∈ firstSum.failed, front.getLast?.map (·.descriptor) = some d) ∧
        firstSum.success = sum.success) ∧
      ∀ failFast,
        let skipped : Summary := ⟨0, [], (mx.matching wanted).length⟩
        (Runner.runMatrix h { r with interpreter := none } mx wanted overrides failFast color).on w
          = (.ok skipped, h.shown (Report.summary color skipped)
              (((mx.matching wanted).map (·.descriptor)).foldl (fun w d => h.shown
                (Report.resultLine color ⟨d, .skipped, 0⟩) w) start)) := by
  obtain ⟨scripts, hcarry, hnames⟩ := forall₂_append_of_valid hvalid (mx.matching wanted)
  refine ⟨scripts, hcarry, ?_⟩
  intro start played sum
  have hlength : played.1.length = (mx.matching wanted).length := by
    rw [← List.length_map (·.descriptor), descriptors_playAll, hnames, List.length_map]
  have hsum : sum = ⟨_, _, _⟩ := Summary.foldl_record played.1 {}
  refine ⟨⟨?_, ?_, ?_, ?_, ?_, ?_, ?_⟩, ?_, ?_⟩
  · exact on_runMatrix color mx wanted false w (on_visitEach color hplays hcarry {} start)
  · rw [descriptors_playAll, hnames]
  · rw [hsum]; exact Nat.zero_add _
  · rw [hsum]; exact Nat.zero_add _
  · rw [hsum]; rfl
  · rw [← hlength]; exact Summary.total_ofResults _
  · exact Summary.success_ofResults _
  · obtain ⟨front, back, rfl, hstops, hloop⟩ :=
      on_visitEach_failFast color hplays hcarry {} start
    refine ⟨front, back, rfl, ?_⟩
    intro first firstSum
    -- The scripts of the run with fail-fast come first in the plain run, in the same
    -- worlds.
    have hplayed : played.1 = first.1 ++ (playAll h color play back first.2).1 :=
      congrArg Prod.fst (playAll_append h color play front back start)
    refine ⟨⟨_, hplayed.symm⟩, hstops, on_runMatrix color mx wanted true w hloop, hstops.failed.1,
      fun d hd => ?_, ?_⟩
    · have hlast := hstops.failed.2 d hd
      rw [← List.getLast?_map, descriptors_playAll, List.getLast?_map] at hlast
      exact hlast
    · -- Where no scripts are left there are no results of them.
      have hbehind : back = [] → (playAll h color play back first.2).1 = [] := fun hback => by
        rw [hback]
        rfl
      rw [Bool.eq_iff_iff, Summary.success_ofResults, Summary.success_ofResults, hplayed]
      exact hstops.all_good_iff hbehind
  · intro failFast skipped
    have hloop := on_visitEach_dry (h := h) color r.settings hcarry failFast start
    rw [← List.length_map (·.descriptor), hnames, List.length_map] at hloop
    exact on_runMatrix color mx wanted failFast w hloop

/-- `runMatrix_accounts` on a stage whose programs count their runs in the
state, and where every run but the first ends with exit code 3. Of three
scripts with equal descriptors two are listed as failed and one passes; a run
that stops at the first failure ends with the second script. -/
theorem runMatrix_accounts_counter :
    let carryOut : Bytes → Nat → Finish × Nat := fun _ n =>
      (⟨.code (if n = 0 then 0 else 3), 0⟩, n + 1)
    let mx : Matrix := ⟨"m", ⟨"m.ms"⟩, ⟨[⟨"a", ["1", "1", "1"]⟩]⟩, .empty, []⟩
    let r : Runner := ⟨{}, some ⟨"bash"⟩⟩
    let w : Stage Nat := ⟨0, fun _ => [], []⟩
    let run := fun failFast =>
      (r.runMatrix (Stage.host carryOut) mx (fun _ => true) ["x=1"] failFast false).on w
    r.Plays (Stage.host carryOut) (Stage.play carryOut {}) ∧
    (∀ p ∈ ["x=1"], ∃ e, Script.IsOverride p e) ∧
    (run false).1 = .ok ⟨1, ["m/a=1", "m/a=1"], 0⟩ ∧ (run false).2.state = 3 ∧
    (run true).1 = .ok ⟨1, ["m/a=1"], 0⟩ ∧ (run true).2.state = 2 := by
  intro carryOut mx r w run
  have hplays := Stage.plays carryOut {} ⟨"bash"⟩
  have hvalid : ∀ p ∈ ["x=1"], ∃ e, Script.IsOverride p e :=
    Script.exists_readOverrides_iff.mp ⟨[("x", "1")], by decide⟩
  obtain ⟨scripts, hcarry, ⟨hplain, -⟩, ⟨front, back, hparts, -, hstops, hfirst, -⟩, -⟩ :=
    runMatrix_accounts hplays mx (fun _ => true) hvalid false w
  obtain ⟨s, s', hmatching, happend, hname⟩ : ∃ s s', mx.matching (fun _ => true) = [s, s, s] ∧
      s.append ["x=1"] = .ok s' ∧ s'.descriptor = "m/a=1" := ⟨_, _, rfl, rfl, by decide⟩
  have hscripts : scripts = [s', s', s'] := by
    rw [hmatching] at hcarry
    simpa [List.forall₂_cons_left_iff, happend] using hcarry
  -- The first script passes and the second one fails, so a run stops there.
  have hfront : front = [s', s'] := by
    rw [hscripts] at hparts
    match front, hparts with
    | [], hparts =>
      rcases hstops.stopped with rfl | ⟨x, hx, -⟩
      · cases hparts
      · cases hx
    | [_], hparts =>
      cases hparts
      rcases hstops.stopped with hback | ⟨x, hx, hbad⟩
      · cases hback
      · cases hx
        cases hbad
    | [_, _], hparts =>
      cases hparts
      rfl
    | [_, _, _], hparts =>
      cases hparts
      cases hstops.good _ (.tail _ (.head _))
    | _ :: _ :: _ :: _ :: _, hparts => cases hparts
  rw [hscripts] at hplain
  rw [hfront] at hfirst
  refine ⟨hplays, hvalid, ?_, ?_, ?_, ?_⟩
  · rw [← hname]
    exact congrArg Prod.fst hplain
  · rw [show run false = _ from hplain]
    simp only [Stage.state_shown, playAll, playOne]
    rfl
  · rw [← hname]
    exact congrArg Prod.fst hfirst
  · rw [show run true = _ from hfirst, Stage.state_shown]
    simp only [playAll, playOne]
    rfl

end Runner

end ScriptMatrix
