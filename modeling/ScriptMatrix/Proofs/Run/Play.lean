import Mathlib.Data.List.Forall2
import ScriptMatrix.Proofs.Run.Action
import ScriptMatrix.Proofs.Script.Overrides

/-!
# `ScriptMatrix.Proofs.Run.Play`: the loop of a run

How a script ends, and what it makes of the world, is up to the program that
carries it out. `Runner.Plays` says that a runner and a host carry out every
script as some function `play` says, and that no file operation on the way
fails. A runner without an interpreter plays nothing, on every host
(`dry_plays`).

`playAll` plays scripts one after the other and shows a line for each.
`on_visitEach` says that the loop of a run does this, and
`on_visitEach_failFast` that with fail-fast it does it for the scripts up to
the first failure. A summary counts results (`foldl_record`), so what it says
follows from the results alone.
-/

set_option autoImplicit false

namespace ScriptMatrix

/-! ### Summaries -/

namespace Summary

/-- The summary of some results, recorded one after the other. -/
def ofResults (results : List TestResult) : Summary := results.foldl record {}

/-- Results are counted by their outcomes, and the failures listed in order. The three parts
of a summary are read off the results by this. -/
theorem foldl_record (results : List TestResult) (sum : Summary) :
    results.foldl record sum =
      ⟨sum.passed + results.countP (·.outcome == .passed),
        sum.failed ++ (results.filter (!·.isGood)).map (·.descriptor),
        sum.skipped + results.countP (·.outcome == .skipped)⟩ := by
  induction results generalizing sum with
  | nil => simp
  | cons x results ih =>
    rw [List.foldl_cons, ih, List.countP_cons, List.countP_cons, List.filter_cons]
    -- There is one case for each outcome that a script may have.
    cases hx : x.outcome <;>
      simp [record, TestResult.isGood, Outcome.isGood, hx] <;> omega

/-- Every result is counted once. The sum is general in the induction, as results are
recorded on what has been counted before. -/
theorem total_ofResults (results : List TestResult) :
    (ofResults results).total = results.length := by
  suffices h : ∀ sum : Summary, (results.foldl record sum).total = sum.total + results.length by
    exact (h {}).trans (Nat.zero_add _)
  induction results with
  | nil => exact fun sum => rfl
  | cons x results ih =>
    intro sum
    have hone : (sum.record x).total = sum.total + 1 := by
      cases hx : x.outcome <;> simp [record, total, hx] <;> omega
    rw [List.foldl_cons, ih, hone, List.length_cons]
    omega

/-- A summary says success just if no result is a failure. -/
theorem success_ofResults (results : List TestResult) :
    (ofResults results).success = true ↔ ∀ x ∈ results, x.isGood = true := by
  rw [ofResults, foldl_record, success]
  simp

end Summary

/-! ### Playing scripts -/

namespace Runner

variable {W : Type} (h : Host (StateM W)) (color : Bool)
  (play : Script → W → Outcome × Nat × W)

/-- A script is played: its result, and the world after its line is shown. -/
def playOne (s : Script) (w : W) : TestResult × W :=
  let result : TestResult := ⟨s.descriptor, (play s w).1, (play s w).2.1⟩
  (result, h.shown (Report.resultLine color result) (play s w).2.2)

/-- Scripts are played one after the other, each in the world that the one before has left. -/
def playAll : List Script → W → List TestResult × W
  | [], w => ([], w)
  | s :: rest, w =>
    let first := playOne h color play s w
    let others := playAll rest first.2
    (first.1 :: others.1, others.2)

/-- The runner runs every script, and it ends as `play` says. A script whose run ends in an
error, since a file cannot be written or no program started, is not played. -/
def Plays (r : Runner) : Prop :=
  ∀ s w, (r.run h s).on w = (.ok ⟨s.descriptor, (play s w).1, (play s w).2.1⟩, (play s w).2.2)

/-- There is a result for every script, under its descriptor. So results can be told apart
as scripts can. -/
theorem descriptors_playAll (scripts : List Script) (w : W) :
    (playAll h color play scripts w).1.map (·.descriptor) = scripts.map (·.descriptor) := by
  induction scripts generalizing w with
  | nil => rfl
  | cons s scripts ih => exact congrArg (s.descriptor :: ·) (ih _)

/-- More scripts are played in the world that the first ones leave. A run that stops early
has played the first of those that a plain run plays. -/
theorem playAll_append (front back : List Script) (w : W) :
    playAll h color play (front ++ back) w =
      ((playAll h color play front w).1
          ++ (playAll h color play back (playAll h color play front w).2).1,
        (playAll h color play back (playAll h color play front w).2).2) := by
  induction front generalizing w with
  | nil => rfl
  | cons s front ih =>
    rw [List.cons_append, playAll, playAll]
    simp only [ih, List.cons_append]

/-- A dry run plays nothing: every script is skipped and the world is left alone. -/
theorem dry_plays (settings : RunSettings) :
    Plays h (fun _ w => (.skipped, 0, w)) ⟨settings, none⟩ := fun _ _ => rfl

/-- Playing nothing shows one line for each script. -/
theorem playAll_dry (scripts : List Script) (w : W) :
    playAll h color (fun _ w => (.skipped, 0, w)) scripts w =
      (scripts.map fun s => ⟨s.descriptor, .skipped, 0⟩,
        (scripts.map (·.descriptor)).foldl (fun w d => h.shown
          (Report.resultLine color ⟨d, .skipped, 0⟩) w) w) := by
  induction scripts generalizing w with
  | nil => rfl
  | cons s scripts ih =>
    rw [playAll]
    simp only [ih]
    rfl

/-! ### The loop of a run -/

/-- The results of a run that stops at the first failure: the last one may be
a failure, and nothing but a failure leaves scripts behind. -/
structure StopsAtFailure (results : List TestResult) (back : List Script) : Prop where
  good : ∀ x ∈ results.dropLast, x.isGood = true
  stopped : back = [] ∨ ∃ x, results.getLast? = some x ∧ x.isGood = false

/-- A good result in front does not change where a run stops. This is the step of
`on_visitEach_failFast` for a script that passes. -/
theorem StopsAtFailure.cons {results : List TestResult} {back : List Script} {x : TestResult}
    (hx : x.isGood = true) (hstops : StopsAtFailure results back) :
    StopsAtFailure (x :: results) back := by
  cases results with
  | nil =>
    -- Of no results none is a failure, so the run had not stopped.
    refine ⟨fun y hy => absurd hy List.not_mem_nil, .inl ?_⟩
    rcases hstops.stopped with hback | ⟨y, hy, -⟩
    · exact hback
    · cases hy
  | cons y results =>
    exact ⟨List.forall_mem_cons.mpr ⟨hx, hstops.good⟩, by
      rw [List.getLast?_cons_cons]; exact hstops.stopped⟩

variable {h play} {r : Runner} {overrides : List String}

/-- One round: the script is given the overrides and played, and a failure ends the loop if
it is to. Both loops below go by this. -/
theorem on_runNext (hplays : r.Plays h play) {s s' : Script} (happend : s.append overrides = .ok s')
    (failFast : Bool) (sum : Summary) (w : W) :
    (r.runNext h overrides failFast color s sum).on w =
      if failFast && !(playOne h color play s' w).1.isGood then
        (.ok (false, sum.record (playOne h color play s' w).1),
          h.shown (Report.stopping color) (playOne h color play s' w).2)
      else
        (.ok (true, sum.record (playOne h color play s' w).1), (playOne h color play s' w).2) := by
  rw [runNext, happend, Action.on_bind_ok (Action.on_except _ w), Action.on_bind_ok (hplays s' w),
    Action.on_bind_ok (on_say h _ _)]
  -- What is left of the round is the test for fail-fast.
  show Action.on (if failFast && !(playOne h color play s' w).1.isGood then _ else _) _ = _
  split
  · rw [Action.on_bind_ok (on_say h _ _)]
    rfl
  · rfl

/-- The loop plays all scripts, and records their results on the summary so far. -/
theorem on_visitEach (hplays : r.Plays h play) {matching scripts : List Script}
    (hcarry : List.Forall₂ (fun s s' => s.append overrides = .ok s') matching scripts)
    (sum : Summary) (w : W) :
    (Matrix.visitEach (r.runNext h overrides false color) matching sum).on w =
      (.ok ((playAll h color play scripts w).1.foldl Summary.record sum),
        (playAll h color play scripts w).2) := by
  induction hcarry generalizing sum w with
  | nil => rfl
  | cons happend _ ih =>
    have hround := on_runNext color hplays happend false sum w
    rw [Bool.false_and, if_neg Bool.false_ne_true] at hround
    rw [Matrix.visitEach, Action.on_bind_ok hround]
    exact ih _ _

/-- With fail-fast the loop plays the scripts up to the first failure. Which these are is
not known beforehand, so they are given as `front`. -/
theorem on_visitEach_failFast (hplays : r.Plays h play) {matching scripts : List Script}
    (hcarry : List.Forall₂ (fun s s' => s.append overrides = .ok s') matching scripts)
    (sum : Summary) (w : W) :
    ∃ front back, scripts = front ++ back ∧
      StopsAtFailure (playAll h color play front w).1 back ∧
      (Matrix.visitEach (r.runNext h overrides true color) matching sum).on w =
        (.ok ((playAll h color play front w).1.foldl Summary.record sum),
          if (playAll h color play front w).1.all (·.isGood) then (playAll h color play front w).2
          else h.shown (Report.stopping color) (playAll h color play front w).2) := by
  induction hcarry generalizing sum w with
  | nil => exact ⟨[], [], rfl, ⟨fun x hx => absurd hx List.not_mem_nil, .inl rfl⟩, rfl⟩
  | @cons s s' matching scripts happend _ ih =>
    have hround := on_runNext color hplays happend true sum w
    rw [Bool.true_and] at hround
    by_cases hgood : (playOne h color play s' w).1.isGood = true
    · -- The loop goes on, and stops where it does from the next script on.
      rw [hgood, if_neg (by decide)] at hround
      obtain ⟨front, back, rfl, hstops, hrest⟩ :=
        ih (sum.record (playOne h color play s' w).1) (playOne h color play s' w).2
      refine ⟨s' :: front, back, rfl, hstops.cons hgood, ?_⟩
      rw [Matrix.visitEach, Action.on_bind_ok hround, playAll]
      simp only [List.foldl_cons, List.all_cons, hgood, Bool.true_and]
      exact hrest
    · have hbad := Bool.eq_false_iff.mpr hgood
      rw [hbad, if_pos (by decide)] at hround
      -- The loop stops here, and everything behind this script is left.
      refine ⟨[s'], scripts, rfl, ⟨fun x hx => absurd hx List.not_mem_nil,
        .inr ⟨_, rfl, hbad⟩⟩, ?_⟩
      rw [Matrix.visitEach, Action.on_bind_ok hround, playAll]
      simp only [playAll, List.foldl_cons, List.foldl_nil, List.all_cons, List.all_nil,
        hbad]
      rfl

/-- Of such results at most the last one is a failure. -/
theorem StopsAtFailure.failures {results : List TestResult} {back : List Script}
    (hstops : StopsAtFailure results back) :
    results.filter (!·.isGood) = (results.getLast?.filter (!·.isGood)).toList := by
  rcases List.eq_nil_or_concat results with rfl | ⟨init, x, rfl⟩
  · rfl
  · have hgood := hstops.good
    rw [List.concat_eq_append, List.dropLast_concat] at hgood
    -- All results but the last are good, so they are filtered out.
    have hnone : init.filter (!·.isGood) = [] :=
      List.filter_eq_nil_iff.mpr fun y hy => by simp [hgood y hy]
    rw [List.concat_eq_append, List.filter_append, hnone, List.nil_append, List.getLast?_concat]
    cases hx : x.isGood <;> simp [Option.filter, hx]

/-- The summary of such results lists at most the last script. -/
theorem StopsAtFailure.failed {results : List TestResult} {back : List Script}
    (hstops : StopsAtFailure results back) :
    (Summary.ofResults results).failed.length ≤ 1 ∧
      ∀ d ∈ (Summary.ofResults results).failed, results.getLast?.map (·.descriptor) = some d := by
  have hfailed : (Summary.ofResults results).failed
      = (results.getLast?.filter (!·.isGood)).toList.map (·.descriptor) := by
    rw [Summary.ofResults, Summary.foldl_record, hstops.failures]
    rfl
  rw [hfailed]
  cases results.getLast? with
  | none => exact ⟨Nat.zero_le _, fun d hd => absurd hd List.not_mem_nil⟩
  | some x =>
    cases hx : x.isGood
    · simp [Option.filter, hx]
    · simp [Option.filter, hx]

/-- Stopping early does not hide a failure: what has been left out comes behind one that is
listed. -/
theorem StopsAtFailure.all_good_iff {results : List TestResult} {back : List Script}
    (hstops : StopsAtFailure results back) {behind : List TestResult}
    (hbehind : back = [] → behind = []) :
    (∀ x ∈ results, x.isGood = true) ↔ ∀ x ∈ results ++ behind, x.isGood = true := by
  refine ⟨fun hgood => ?_, fun hgood x hx => hgood x (List.mem_append_left _ hx)⟩
  -- Either nothing has been left out, or the last result is a failure.
  rcases hstops.stopped with hback | ⟨x, hx, hbad⟩
  · rw [hbehind hback, List.append_nil]
    exact hgood
  · rw [hgood x (List.mem_of_getLast? hx)] at hbad
    cases hbad

/-- The loop of a dry run shows a line for every script, and goes on after each. Nothing
fails in it, so fail-fast makes no difference. -/
theorem on_visitEach_dry (settings : RunSettings) {matching scripts : List Script}
    (hcarry : List.Forall₂ (fun s s' => s.append overrides = .ok s') matching scripts)
    (failFast : Bool) (w : W) :
    (Matrix.visitEach (runNext h ⟨settings, none⟩ overrides failFast color) matching {}).on w =
      (.ok ⟨0, [], scripts.length⟩, (scripts.map (·.descriptor)).foldl (fun w d => h.shown
        (Report.resultLine color ⟨d, .skipped, 0⟩) w) w) := by
  have hplays := dry_plays h settings
  have hresults := fun scripts => congrArg Prod.fst (playAll_dry h color scripts w)
  -- Only the count of skipped scripts is not zero.
  have hsummary : ∀ scripts : List Script, (scripts.map fun s =>
      (⟨s.descriptor, .skipped, 0⟩ : TestResult)).foldl Summary.record {}
        = ⟨0, [], scripts.length⟩ := fun scripts => by
    rw [Summary.foldl_record]
    simp [List.countP_map, List.filter_map, Function.comp_def, TestResult.isGood, Outcome.isGood]
  cases failFast with
  | false => rw [on_visitEach color hplays hcarry, playAll_dry, hsummary]
  | true =>
    obtain ⟨front, back, rfl, hstops, hloop⟩ := on_visitEach_failFast color hplays hcarry {} w
    -- No result is a failure, so nothing is left behind.
    have hgood : ∀ x ∈ (playAll h color (fun _ w => (.skipped, 0, w)) front w).1,
        x.isGood = true := by
      rw [hresults]
      intro x hx
      obtain ⟨s, -, rfl⟩ := List.mem_map.mp hx
      rfl
    have hback : back = [] := by
      rcases hstops.stopped with hback | ⟨x, hx, hbad⟩
      · exact hback
      · rw [hgood x (List.mem_of_getLast? hx)] at hbad
        cases hbad
    subst hback
    rw [hloop, if_pos (List.all_eq_true.mpr hgood), playAll_dry, hsummary, List.append_nil]

/-- Overrides that are valid can be added to every script. Descriptors do not depend on
them, so the scripts match as before. -/
theorem forall₂_append_of_valid (hvalid : ∀ p ∈ overrides, ∃ e, Script.IsOverride p e)
    (matching : List Script) :
    ∃ scripts, List.Forall₂ (fun s s' => s.append overrides = .ok s') matching scripts ∧
      scripts.map (·.descriptor) = matching.map (·.descriptor) := by
  obtain ⟨entries, hread⟩ := Script.exists_readOverrides_iff.mpr hvalid
  refine ⟨matching.map fun s => s.withOverrides (entries.foldl Script.put s.overrides), ?_, ?_⟩
  · refine List.forall₂_map_right_iff.mpr (List.forall₂_same.mpr fun s _ => ?_)
    rw [Script.append, hread]
    rfl
  · rw [List.map_map]
    rfl

/-- A run shows its heading, goes through the loop, and shows the summary. The loop starts
in the world behind the heading. -/
theorem on_runMatrix (mx : Matrix) (wanted : String → Bool) (failFast : Bool) (w : W) {w' : W}
    {sum : Summary}
    (hloop : (Matrix.visitEach (r.runNext h overrides failFast color) (mx.matching wanted) {}).on
      (h.shown (Report.heading color mx.name) w) = (.ok sum, w')) :
    (r.runMatrix h mx wanted overrides failFast color).on w =
      (.ok sum, h.shown (Report.summary color sum) w') := by
  rw [runMatrix, Action.on_bind_ok (on_say h _ w), Matrix.visit_eq, Action.on_bind_ok hloop,
    Action.on_bind_ok (on_say h _ w')]
  rfl

end Runner

end ScriptMatrix
