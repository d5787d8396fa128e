import ScriptMatrix.Sandbox.Shell.Syntax

/-!
# `ScriptMatrix.Sandbox.Shell.Variable`: what variables hold

A variable holds a text, or an array: texts by number or by key. A text is
also the element zero of an array. Numbers come in ascending order; keys
come in the order of the buckets that their hashes fall into, later ones
first in a bucket.
-/

set_option autoImplicit false

namespace ScriptMatrix.Sandbox.Shell

/-- What a variable holds. -/
inductive Content where
  | text (cs : Chars)
  /-- Texts by ascending numbers. -/
  | indexed (elements : List (Nat × Chars))
  /-- Texts by keys, in their order. -/
  | keyed (entries : List (Chars × Chars))
  deriving Repr, DecidableEq

/-- A variable. It may be known without a value. -/
structure Variable where
  content : Option Content := none
  exported : Bool := false
  /-- Whether it keeps its value. -/
  constant : Bool := false
  /-- Whether what is assigned to it is a sum. -/
  integer : Bool := false
  /-- How the letters of what is assigned to it are changed. -/
  letters : Option LetterCase := none
  /-- Whether its value is the name of the variable meant. -/
  reference : Bool := false
  deriving Repr, DecidableEq

/-- The bucket of a key. -/
def bucketOf (key : Chars) : Nat :=
  key.foldl (fun h c => ((h * 16777619) % 4294967296) ^^^ c.toNat) 2166136261 % 1024

namespace Content

/-- Puts an element in its place among numbered ones. -/
def insertAt (n : Nat) (cs : Chars) : List (Nat × Chars) → List (Nat × Chars)
  | [] => [(n, cs)]
  | e :: es =>
    if n < e.1 then (n, cs) :: e :: es
    else if n == e.1 then (n, cs) :: es
    else e :: insertAt n cs es

/-- Puts an entry in its place among keyed ones. -/
def insertKey (key cs : Chars) : List (Chars × Chars) → List (Chars × Chars)
  | [] => [(key, cs)]
  | e :: es =>
    if bucketOf key ≤ bucketOf e.1 then (key, cs) :: e :: es else e :: insertKey key cs es

/-- Gives a key its text. -/
def putKey (key cs : Chars) (entries : List (Chars × Chars)) : List (Chars × Chars) :=
  if entries.any (·.1 == key) then entries.map fun e => if e.1 == key then (key, cs) else e
  else insertKey key cs entries

/-- The texts by their numbers or keys. -/
def elements : Content → List (Chars × Chars)
  | .text cs => [(['0'], cs)]
  | .indexed es => es.map fun e => (digits e.1, e.2)
  | .keyed es => es

/-- The text that stands for the whole. -/
def value? : Content → Option Chars
  | .text cs => some cs
  | .indexed es => es.lookup 0
  | .keyed es => es.lookup ['0']

/-- One more than the largest number. -/
def nextIndex : Content → Nat
  | .text _ => 1
  | .indexed es => (es.getLast?.map (·.1 + 1)).getD 0
  | .keyed _ => 0

/-- The number that an index means; a negative one counts from the end. -/
def indexOf? (c : Content) (i : Int) : Option Nat :=
  if 0 ≤ i then some i.toNat
  else if 0 ≤ i + c.nextIndex then some (i + c.nextIndex).toNat
  else none

/-- The text with a number. -/
def numbered? (c : Content) (i : Int) : Option Chars :=
  (c.indexOf? i).bind fun n =>
    match c with
    | .text cs => if n == 0 then some cs else none
    | .indexed es => es.lookup n
    | .keyed es => es.lookup (digits n)

/-- The texts by number, of a text or of an array. -/
def toIndexed : Content → List (Nat × Chars)
  | .text cs => [(0, cs)]
  | .indexed es => es
  | .keyed _ => []

/-- Texts numbered from zero on. -/
def ofList (texts : List Chars) : Content :=
  .indexed ((List.range texts.length).zip texts)

end Content

namespace Variable

/-- The variable with a text. -/
def ofText (cs : Chars) : Variable := { content := some (.text cs) }

/-- The text that stands for the value. -/
def value? (v : Variable) : Option Chars := v.content.bind Content.value?

/-- Whether its elements have keys. -/
def isKeyed (v : Variable) : Bool :=
  match v.content with
  | some (.keyed _) => true
  | _ => false

/-- Gives the variable a text, which in an array is the element zero. -/
def withText (v : Variable) (cs : Chars) : Variable :=
  { v with content := some <| match v.content with
    | some (.indexed es) => .indexed (Content.insertAt 0 cs es)
    | some (.keyed es) => .keyed (Content.putKey ['0'] cs es)
    | _ => .text cs }

/-- Gives the element with a number a text. -/
def withNumbered (v : Variable) (n : Nat) (cs : Chars) : Variable :=
  let before := (v.content.map Content.toIndexed).getD []
  { v with content := some (.indexed (Content.insertAt n cs before)) }

/-- Gives the element with a key a text. -/
def withKeyed (v : Variable) (key cs : Chars) : Variable :=
  let before := match v.content with
    | some (.keyed es) => es
    | _ => []
  { v with content := some (.keyed (Content.putKey key cs before)) }

/-- The letters of the attributes. -/
def attributes (v : Variable) : Chars :=
  (match v.content with
    | some (.indexed _) => ['a']
    | some (.keyed _) => ['A']
    | _ => []) ++
  (if v.integer then ['i'] else []) ++
  (if v.reference then ['n'] else []) ++
  (if v.constant then ['r'] else []) ++
  (match v.letters with
    | some .lower => ['l']
    | some .upper => ['u']
    | some .swapped => ['c']
    | none => []) ++
  (if v.exported then ['x'] else [])

end Variable

/-- Variables by name. -/
abbrev Frame := List (Chars × Variable)

namespace Frame

/-- Gives a name a variable. -/
def put (f : Frame) (name : Chars) (v : Variable) : Frame :=
  if f.any (·.1 == name) then f.map fun e => if e.1 == name then (name, v) else e
  else (name, v) :: f

/-- Removes a name. -/
def erase (f : Frame) (name : Chars) : Frame := f.filter (·.1 != name)

end Frame

end ScriptMatrix.Sandbox.Shell
