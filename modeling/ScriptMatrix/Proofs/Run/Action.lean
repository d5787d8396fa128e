import ScriptMatrix.Proofs.Run.Visit
import ScriptMatrix.Run.Runner

/-!
# `ScriptMatrix.Proofs.Run.Action`: steps on a world

On a host whose operations change a world of some type, an action answers
with a value or an error and leaves another world: `Action.on`. The lemmas
say what becomes of the world through the steps that actions are made of.
-/

set_option autoImplicit false

namespace ScriptMatrix

variable {W : Type} {α β : Type}

namespace Action

/-- What an action answers, and the world after it. An error leaves a world as well: what
was done before it stays done. -/
def on (x : Action (StateM W) α) (w : W) : Except Error α × W := x.run.run w

/-- After a step that answers, the next one begins in the world it left. Actions are
followed step by step with this and `on_bind_error`. -/
theorem on_bind_ok {x : Action (StateM W) α} {f : α → Action (StateM W) β} {a : α} {w w' : W}
    (h : x.on w = (.ok a, w')) : (x >>= f).on w = (f a).on w' := by
  unfold on at h ⊢
  -- The run of a bind is a match on the answer of the first step, which `h` says.
  rw [ExceptT.run_bind, StateT.run_bind, h]
  rfl

/-- An error ends an action, in the world where it came up. -/
theorem on_bind_error {x : Action (StateM W) α} {f : α → Action (StateM W) β} {e : Error} {w w' : W}
    (h : x.on w = (.error e, w')) : (x >>= f).on w = (.error e, w') := by
  unfold on at h ⊢
  rw [ExceptT.run_bind, StateT.run_bind, h]
  rfl

/-- What is computed without the world leaves it. -/
theorem on_except (x : Except Error α) (w : W) : on (x : Action (StateM W) α) w = (x, w) := by
  cases x <;> rfl

/-- An operation of the host does what it does, and is no error whatever it answers. -/
theorem on_lift (x : StateM W α) (w : W) :
    on (liftM x : Action (StateM W) α) w = (.ok (x w).1, (x w).2) := rfl

/-- A file operation answers with its fault as an error. -/
theorem on_ofFault (x : StateM W (Except Fault α)) (w : W) :
    on (ofFault x) w = ((x w).1.mapError .io, (x w).2) := rfl

end Action

/-- The world after text has been shown. -/
def Host.shown (h : Host (StateM W)) (text : String) (w : W) : W :=
  (h.output (Text.encode text) w).2

/-- Showing text cannot fail, so lines of a run never end it. -/
theorem Runner.on_say (h : Host (StateM W)) (text : String) (w : W) :
    (Runner.say h text).on w = (.ok (), h.shown text w) := rfl

end ScriptMatrix
