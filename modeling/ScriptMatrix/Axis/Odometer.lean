import ScriptMatrix.Axis
import ScriptMatrix.Binding

/-!
# `ScriptMatrix.Axis.Odometer`: the bindings of an axis set, one by one

An odometer runs through the product of the axes. It holds one index per
axis; a step moves the last index and carries to the left, so the first
axis turns slowest. Beside the indices it counts how many bindings are
still to come, where a 64-bit count can hold that number.
-/

set_option autoImplicit false

namespace ScriptMatrix

/-- Where an odometer stands. -/
inductive Position where
  /-- No binding has been asked for. -/
  | fresh
  /-- The last binding given has these indices. -/
  | running (cursor : List Nat)
  /-- All bindings have been given. -/
  | done
  deriving Repr, DecidableEq

/-- The state of a run through the bindings of some axes. -/
structure Odometer where
  axes : List Axis
  position : Position
  /-- How many bindings are still to come; `none` if too many to count. -/
  remaining : Option Nat
  deriving Repr

namespace Odometer

/-- An odometer in front of the first binding. -/
def start (s : AxisSet) : Odometer := ⟨s.axes, .fresh, s.bindingCount⟩

/-- Moves the indices to the next point of the product: whether there is
one, and the indices after it. An index that passes its last value starts
over and carries to the index on its left. -/
def advance : List Axis → List Nat → Bool × List Nat
  | a :: axes, i :: cursor =>
    let (moved, cursor') := advance axes cursor
    if moved then (true, i :: cursor')
    else if i + 1 < a.values.length then (true, (i + 1) :: cursor')
    else (false, 0 :: cursor')
  | _, _ => (false, [])

/-- The binding that the indices select. -/
def select (axes : List Axis) (cursor : List Nat) : Binding :=
  ⟨List.zipWith (fun a i => (a.name, a.values.getD i "")) axes cursor⟩

/-- Puts the odometer on some indices and gives their binding. -/
def giveAt (o : Odometer) (cursor : List Nat) : Option Binding × Odometer :=
  (some (select o.axes cursor),
    { o with position := .running cursor, remaining := o.remaining.map (· - 1) })

/-- Ends the run. -/
def finish (o : Odometer) : Odometer := { o with position := .done }

/-- The next binding, if there is one, and the odometer after it. -/
def next (o : Odometer) : Option Binding × Odometer :=
  match o.position with
  | .done => (none, o)
  | .fresh =>
    if o.axes.any (·.values.isEmpty) then (none, o.finish)
    else o.giveAt (List.replicate o.axes.length 0)
  | .running cursor =>
    match advance o.axes cursor with
    | (true, cursor') => o.giveAt cursor'
    | (false, _) => (none, o.finish)

/-- Bounds on how many bindings are still to come, the upper one only
where it is known. -/
def sizeHint (o : Odometer) : Nat × Option Nat :=
  match o.position, o.remaining with
  | .done, _ => (0, some 0)
  | _, some n => (n, some n)
  | _, none => (countBound - 1, none)

/-- Passes over `n` bindings and gives the one behind them. -/
def skip : Nat → Odometer → Option Binding × Odometer
  | 0, o => o.next
  | n + 1, o =>
    match o.next with
    | (none, o') => (none, o')
    | (some _, o') => skip n o'

/-- How many bindings there are in all, however many that is. -/
def product : List Axis → Nat
  | [] => 1
  | a :: axes => a.values.length * product axes

/-- How many bindings stand in front of the one with some indices. -/
def rank : List Axis → List Nat → Nat
  | _ :: axes, i :: cursor => i * product axes + rank axes cursor
  | _, _ => 0

/-- How many bindings are still to come, however many that is. -/
def left (o : Odometer) : Nat :=
  match o.position with
  | .done => 0
  | .fresh => product o.axes
  | .running cursor => product o.axes - (rank o.axes cursor + 1)

/-- Up to `n` bindings from here on. -/
def take : Nat → Odometer → List Binding
  | 0, _ => []
  | n + 1, o =>
    match o.next with
    | (none, _) => []
    | (some b, o') => b :: take n o'

end Odometer

/-- All bindings of an axis set in order, the last axis turning fastest. -/
def AxisSet.bindings (s : AxisSet) : List Binding :=
  (Odometer.start s).take (Odometer.product s.axes)

end ScriptMatrix
