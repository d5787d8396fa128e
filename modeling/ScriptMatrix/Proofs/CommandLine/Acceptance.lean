import ScriptMatrix.CommandLine
import ScriptMatrix.Proofs.Document.Termination
import ScriptMatrix.Proofs.Run.Play

/-!
# `ScriptMatrix.Proofs.CommandLine.Acceptance`: where no override is refused

Only adding overrides to a script ends with a refused override. `Accepted` says
that a result is no such end, and `Accepting` that an action never comes to one.
Both are closed under the steps that programs are made of, so what a command does
with a matrix is shown step by step, from reading its document
(`Matrix.accepted_read`) to running a script with valid overrides
(`Runner.accepting_runNext`).
-/

set_option autoImplicit false

namespace ScriptMatrix

/-! ### Results -/

/-- A result other than a refused override. It may be any other error, so only what a step
does with overrides has to be looked at. -/
def Accepted {α : Type} (x : Except Error α) : Prop :=
  ∀ text, x ≠ .error (.invalidOverride text)

namespace Accepted

variable {α β : Type}

theorem ok (a : α) : Accepted (.ok a) := fun _ h => by cases h

theorem error {e : Error} (h : ∀ text, e ≠ .invalidOverride text) :
    Accepted (.error e : Except Error α) := fun text heq => h text (Except.error.inj heq)

/-- It is the same error, whatever result it stands for. `bind` and `map` pass an error on,
but at another type. -/
theorem error_congr {e : Error} (h : Accepted (.error e : Except Error α)) :
    Accepted (.error e : Except Error β) := error fun text heq => h text (congrArg _ heq)

theorem bind {x : Except Error α} {f : α → Except Error β} (hx : Accepted x)
    (hf : ∀ a, Accepted (f a)) : Accepted (x >>= f) := by
  cases x with
  | ok a => exact hf a
  | error e => exact error_congr hx

theorem map {x : Except Error α} (hx : Accepted x) (f : α → β) : Accepted (x.map f) := by
  cases x with
  | ok a => exact ok (f a)
  | error e => exact error_congr hx

theorem mapError {ε : Type} {g : ε → Error} (hg : ∀ e text, g e ≠ .invalidOverride text)
    (x : Except ε α) : Accepted (x.mapError g) := by
  cases x with
  | ok a => exact ok a
  | error e => exact error (hg e)

end Accepted

/-! ### Reading a matrix -/

/-- Opening a file is not refused: a file that is open already, or cannot be read, is
another error. -/
theorem Source.accepted_push (fs : Files) (s : Source) (path : Path) (file : Nat) :
    Accepted (s.push fs path file) := by
  intro text h
  -- The file may be open already, or be one that cannot be opened.
  rw [push] at h
  split at h
  · cases h
  · split at h <;> cases h

/-- Following an include is not refused. It opens a file, or says that there is none. -/
theorem Source.accepted_include? (fs : Files) (s : Source) (path : String) :
    Accepted (s.include? fs path) := by
  rw [include?]
  split
  · exact accepted_push fs s _ _
  · split
    · exact accepted_push fs s _ _
    · exact .error fun _ h => by cases h

/-- The data of a block is not refused: its faults are errors of their own kind. -/
theorem Document.accepted_addBlock (d : Document) (kind : BlockKind) (header : Place)
    (data : Bytes) : Accepted (d.addBlock kind header data) := by
  intro text h
  cases kind with
  | params =>
    simp only [addBlock] at h
    split at h <;> cases h
  | defaultParams =>
    simp only [addBlock] at h
    split at h <;> cases h

namespace Reader

/-- A line is not refused, in a block or outside. Only the end of a block and an include can
fail at all. -/
theorem accepted_take (fs : Files) (r : Reader) (line : SourceLine) :
    Accepted (r.take fs line) := by
  rw [take]
  cases r.block with
  | some b =>
    show Accepted (r.takeBlockLine b line)
    rw [takeBlockLine]
    split
    · exact (Document.accepted_addBlock _ _ _ _).bind fun _ => .ok _
    · exact .ok _
  | none =>
    show Accepted (r.takeLine fs line)
    rw [takeLine]
    split
    · exact .ok _
    · exact (Source.accepted_include? fs r.source _).bind fun _ => .ok _
    · exact .ok _

/-- What a loop ends with is not refused. The induction is on the fuel, and `step_stepped`
says how a step may end, so that only an error of `take` is left to look at. -/
theorem accepted_loop {fs : Files} {n : Nat} {r : Reader} {x : Except Error Document}
    (h : loop fs n r = some x) : Accepted x := by
  induction n generalizing r with
  | zero => cases h
  | succ n ih =>
    have hstepped := step_stepped fs r
    rw [loop] at h
    generalize r.step fs = progress at h hstepped
    cases hstepped with
    | finished => cases h; exact .ok _
    | unterminated => cases h; exact .error fun _ h => by cases h
    | stuck => cases h; exact .error fun _ h => by cases h
    | line done f rest l u =>
      -- The loop goes on behind the line, or ends with the error of this line.
      have htake := accepted_take fs { r with source := ⟨r.source.rootDir, f.behind u :: rest⟩ }
        ⟨l, ⟨f.path, f.line + 1⟩⟩
      revert h htake
      generalize take fs _ _ = taken
      intro h htake
      cases taken with
      | ok r' => exact ih h
      | error e => cases h; exact .error_congr htake

end Reader

/-- Reading a matrix is not refused, from opening its root document to the loop over the
lines. Names and bodies of matrices cannot fail. -/
theorem Matrix.accepted_read (fs : Files) (root : Path) : Accepted (Matrix.read fs root) := by
  have hdocument : Accepted (Document.read fs root) := by
    refine .bind ?_ fun s => ?_
    · rw [Source.start]
      split
      · exact .error fun _ h => by cases h
      · exact Source.accepted_push fs _ _ _
    · rw [Document.ofSource]
      cases hloop : Reader.loop fs (fs.lineBound + 1) ⟨s, .empty, none⟩ with
      | none => exact .error fun _ h => by cases h
      | some x => exact Reader.accepted_loop hloop
  exact hdocument.map _

/-- A filter is not refused. If it is no regular expression, that is an error of its own. -/
theorem CommandLine.accepted_filterFor (r : FilterRequest) : Accepted (filterFor r) := by
  rw [filterFor]
  split
  · exact .ok _
  · refine .map ?_ some
    rw [Filter.ofText]
    split
    · exact .ok _
    · split
      · exact .ok _
      · exact .error fun _ h => by cases h

/-- Valid overrides are added to every script. This is the only step that can refuse one,
and the only place where `hvalid` is needed. -/
theorem Script.accepted_append {params : List String} (hvalid : ∀ p ∈ params, ∃ e, IsOverride p e)
    (s : Script) : Accepted (s.append params) := by
  obtain ⟨entries, hread⟩ := exists_readOverrides_iff.mpr hvalid
  rw [append, hread]
  exact .ok _

/-! ### Actions that are not refused -/

/-- An action that never ends with a refused override, from whatever state of the world it
starts. So nothing has to be known of what the operations of a host do. -/
def Accepting {W α : Type} (x : Action (StateM W) α) : Prop := ∀ w, Accepted (x.on w).1

namespace Accepting

variable {W α β : Type}

theorem pure (a : α) : Accepting (Pure.pure a : Action (StateM W) α) := fun _ => .ok a

theorem bind {x : Action (StateM W) α} {f : α → Action (StateM W) β} (hx : Accepting x)
    (hf : ∀ a, Accepting (f a)) : Accepting (x >>= f) := by
  intro w
  cases h : x.on w with
  | mk answer w' =>
    cases answer with
    | ok a => rw [Action.on_bind_ok h]; exact hf a w'
    | error e =>
      rw [Action.on_bind_error h]
      exact .error_congr (h ▸ hx w : Accepted (Prod.fst (Except.error e, w')))

theorem lift (x : StateM W α) : Accepting (liftM x : Action (StateM W) α) := fun _ => .ok _

theorem ofFault (x : StateM W (Except Fault α)) : Accepting (Action.ofFault x) := fun w => by
  rw [Action.on_ofFault]
  exact .mapError (fun _ _ h => by cases h) _

theorem except {x : Except Error α} (hx : Accepted x) :
    Accepting (x : Action (StateM W) α) := fun w => by
  rw [Action.on_except]
  exact hx

/-- A visit is not refused if none of its rounds is. The induction is on the scripts; a
round may also end the visit. -/
theorem visitEach {σ : Type} {f : Script → σ → Action (StateM W) (Bool × σ)}
    (hf : ∀ s state, Accepting (f s state)) (scripts : List Script) (state : σ) :
    Accepting (Matrix.visitEach f scripts state) := by
  induction scripts generalizing state with
  | nil => exact pure state
  | cons s scripts ih =>
    refine (hf s state).bind fun (more, next) => ?_
    cases more with
    | true => exact ih next
    | false => exact pure next

end Accepting

/-! ### Runners -/

namespace Runner

variable {W : Type} (h : Host (StateM W))

/-- Showing text is not refused, and cannot fail. -/
theorem accepting_say (text : String) : Accepting (say h text) := .lift _

/-- A runner is not refused. All that can fail is the search for the interpreter. -/
theorem accepting_create (settings : RunSettings) (dryRun : Bool) :
    Accepting (create h settings dryRun) := by
  -- A path is looked for where it leads, and a bare name in the directories of the search
  -- path.
  have hfind : Accepting (findInterpreter h settings.interpreter) := by
    rw [findInterpreter]
    split
    · refine .bind (.lift _) fun found => ?_
      cases found
      · exact .except (.error fun _ h => by cases h)
      · exact .pure _
    · refine .bind (.lift _) fun found => ?_
      cases found
      · exact .except (.error fun _ h => by cases h)
      · exact .pure _
  cases dryRun with
  | true => exact .pure _
  | false => exact .bind hfind fun _ => .pure _

/-- Running a script is not refused, whether it is written to a path or to a file of its
own, and whatever becomes of it. -/
theorem accepting_run (r : Runner) (s : Script) : Accepting (r.run h s) := by
  -- The text goes to the path that the settings name, or to a file that is removed
  -- afterwards.
  have hpersist : ∀ text, Accepting (r.persist h text) := fun text => by
    rw [persist]
    split
    · refine .bind ?_ fun _ => .bind (.ofFault _) fun _ => .pure _
      rw [scriptLocation]
      split
      · exact .pure _
      · exact .bind (.lift _) fun _ => .pure _
    · exact .bind (.ofFault _) fun _ => .pure _
  rw [run]
  split
  · exact .pure _
  · refine .bind (hpersist s.text) fun (path, own) => .bind (.lift _) fun answer => ?_
    -- Behind the program only a result is made of how it has ended.
    have hend : Accepting (do
        let finish ← Action.ofFault (pure answer : StateM W _)
        return (⟨s.descriptor, outcomeOf r.settings.timeout finish.exit,
          finish.hundredths⟩ : TestResult)) := .bind (.ofFault _) fun _ => .pure _
    cases own with
    | true => exact .bind (.lift _) fun _ => hend
    | false => exact hend

/-- A round of a run is not refused if the overrides are valid. They are added first, and
what comes behind never refuses. -/
theorem accepting_runNext (r : Runner) {overrides : List String}
    (hvalid : ∀ p ∈ overrides, ∃ e, Script.IsOverride p e) (failFast color : Bool) (s : Script)
    (sum : Summary) : Accepting (r.runNext h overrides failFast color s sum) := by
  refine .bind (.except (Script.accepted_append hvalid s)) fun s' =>
    .bind (accepting_run h r s') fun result => .bind (accepting_say h _) fun _ => ?_
  split
  · exact .bind (accepting_say h _) fun _ => .pure _
  · exact .pure _

end Runner

end ScriptMatrix
