import ScriptMatrix.Axis.Odometer
import ScriptMatrix.Document
import ScriptMatrix.Filter
import ScriptMatrix.Script

/-!
# `ScriptMatrix.Matrix`: a document and the scripts it stands for

A matrix has the name of its root document and stands for one script for
every binding of its axes, in the order of the bindings.
-/

set_option autoImplicit false

namespace ScriptMatrix

/-- A document that has been read, under its name. -/
structure Matrix where
  name : String
  root : Path
  axes : AxisSet
  defaults : Defaults
  body : Bytes
  deriving Repr

namespace Matrix

/-- The name of a matrix: the file name of its root document without the
extension, or the whole path if that ends in no name. -/
def nameOf (root : Path) : String := root.fileStem?.getD root.text

/-- The matrix of a document. -/
def ofDocument (root : Path) (d : Document) : Matrix :=
  ⟨nameOf root, root, d.axes, d.defaults, d.body⟩

/-- Reads the matrix whose root document a path names. -/
def read (fs : Files) (root : Path) : Except Error Matrix :=
  (Document.read fs root).map (ofDocument root)

/-- How many scripts there are; `none` if too many to count. -/
def count (m : Matrix) : Option Nat := m.axes.bindingCount

/-- Whether there are no scripts. -/
def isEmpty (m : Matrix) : Bool := m.count == some 0

/-- The script of a binding. -/
def script (m : Matrix) (b : Binding) : Script := Script.ofBinding m.name m.defaults m.body b

/-- Whether a filter chooses the script of a binding. -/
def chooses (m : Matrix) (filter : Option Filter) (b : Binding) : Bool :=
  Filter.chooses filter (b.descriptor m.name)

/-- All scripts that a filter chooses, in order. -/
def scripts (m : Matrix) (filter : Option Filter) : List Script :=
  (m.axes.bindings.filter (m.chooses filter)).map m.script

end Matrix

/-- A run through the scripts of a matrix, one for each binding. -/
structure Scripts where
  matrix : Matrix
  bindings : Odometer
  deriving Repr

namespace Scripts

/-- The run in front of the first script. -/
def start (m : Matrix) : Scripts := ⟨m, .start m.axes⟩

/-- The next script, if there is one, and the run after it. -/
def next (r : Scripts) : Option Script × Scripts :=
  let (b, o) := r.bindings.next
  (b.map r.matrix.script, { r with bindings := o })

/-- Bounds on how many scripts are still to come. -/
def sizeHint (r : Scripts) : Nat × Option Nat := r.bindings.sizeHint

end Scripts

namespace Matrix

/-- Visits the wanted ones of the next `fuel` scripts, as long as `f` says to
go on. -/
def visitFrom {m : Type → Type} [Monad m] {σ : Type} (wanted : String → Bool)
    (f : Script → σ → m (Bool × σ)) : Nat → Scripts → σ → m σ
  | 0, _, state => return state
  | fuel + 1, r, state =>
    match r.next with
    | (none, _) => return state
    | (some s, r') =>
      if wanted s.descriptor then do
        let (more, state') ← f s state
        if more then visitFrom wanted f fuel r' state' else return state'
      else visitFrom wanted f fuel r' state

/-- Visits the scripts with a wanted descriptor, in order and one by one, as
long as `f` says to go on. -/
def visit {m : Type → Type} [Monad m] {σ : Type} (mx : Matrix) (wanted : String → Bool)
    (f : Script → σ → m (Bool × σ)) (state : σ) : m σ :=
  visitFrom wanted f (Odometer.product mx.axes.axes) (Scripts.start mx) state

/-- The first scripts that a filter chooses: at most `wanted` from the next
`fuel` bindings. -/
def firstFrom (m : Matrix) (filter : Option Filter) : Nat → Nat → Odometer → List Script
  | 0, _, _ => []
  | _, 0, _ => []
  | fuel + 1, wanted + 1, o =>
    match o.next with
    | (none, _) => []
    | (some b, o') =>
      if m.chooses filter b then m.script b :: firstFrom m filter fuel wanted o'
      else firstFrom m filter fuel (wanted + 1) o'

/-- The first scripts that a filter chooses, at most `wanted`. -/
def firstScripts (m : Matrix) (filter : Option Filter) (wanted : Nat) : List Script :=
  m.firstFrom filter (Odometer.product m.axes.axes) wanted (Odometer.start m.axes)

end Matrix

end ScriptMatrix
