import ScriptMatrix.Matrix

/-!
# `ScriptMatrix.Proofs.Run.Visit`: a visit goes through a list

`Matrix.visit` asks an odometer for one binding after the other, makes its
script, and passes over those that are not wanted. `visit_eq` says that this
is a visit of a list: of all scripts in the order of the bindings, those with
a wanted descriptor.
-/

set_option autoImplicit false

namespace ScriptMatrix

namespace Matrix

variable {m : Type → Type} [Monad m] {σ : Type}

/-- The scripts of all bindings that have a wanted descriptor, in order. The odometer is
gone from this: it is a list. -/
def matching (mx : Matrix) (wanted : String → Bool) : List Script :=
  (mx.axes.bindings.map mx.script).filter fun s => wanted s.descriptor

/-- Visits scripts one by one, as long as `f` says to go on. Inductions on runs and
renderings are on this list. -/
def visitEach (f : Script → σ → m (Bool × σ)) : List Script → σ → m σ
  | [], state => return state
  | s :: rest, state => do
    let (more, state') ← f s state
    if more then visitEach f rest state' else return state'

/-- A run visits what its odometer still gives, as far as the fuel goes. A script that is
not wanted uses up fuel as well, which is why the filter is behind `take`. -/
theorem visitFrom_eq (wanted : String → Bool) (f : Script → σ → m (Bool × σ)) (fuel : Nat)
    (r : Scripts) (state : σ) :
    visitFrom wanted f fuel r state
      = visitEach f (((r.bindings.take fuel).map r.matrix.script).filter
          fun s => wanted s.descriptor) state := by
  induction fuel generalizing r state with
  | zero => rfl
  | succ fuel ih =>
    -- One binding is taken on either side. If the odometer is at its end, so are both.
    rw [visitFrom, Scripts.next, Odometer.take]
    generalize r.bindings.next = next
    obtain ⟨b | b, o⟩ := next
    · rfl
    · dsimp only [Option.map_some]
      rw [List.map_cons, List.filter_cons]
      split
      · simp only [visitEach, ih]
      · rw [ih]

/-- A visit goes through the matching scripts. Its fuel is the number of bindings, so none
is left out. -/
theorem visit_eq (mx : Matrix) (wanted : String → Bool) (f : Script → σ → m (Bool × σ))
    (state : σ) : mx.visit wanted f state = visitEach f (mx.matching wanted) state :=
  visitFrom_eq wanted f _ (.start mx) state

/-- A filter chooses the scripts whose descriptors it accepts. -/
theorem scripts_eq_matching (mx : Matrix) (filter : Option Filter) :
    mx.scripts filter = mx.matching filter := by
  rw [scripts, matching, List.filter_map]
  rfl

end Matrix

end ScriptMatrix
