import ScriptMatrix.Regex.Automaton.Plan
import ScriptMatrix.Regex.Error
import Std.Data.HashMap

/-!
# `ScriptMatrix.Regex.Automaton.Size`: how large an automaton becomes

An automaton is a number of states and the links that some of them have.
`Plan.lay` goes through a plan as one who builds the automaton would and
keeps the numbers only. Parts of characters that have been laid before are
used again where they are still remembered: memory has so many slots, and
a later part takes the slot of an earlier one. So the numbers of states
matter, and every round of a repetition is laid on its own.
-/

set_option autoImplicit false

namespace ScriptMatrix.Regex

/-- In which direction an automaton reads. -/
inductive Direction where
  | forwards
  | backwards
  deriving Repr, DecidableEq

/-- The size of what has been laid. -/
structure Extension where
  states : Nat
  /-- The bytes that the links of states take. -/
  links : Nat
  deriving Repr, DecidableEq

/-- The bytes that a state takes without its links. -/
def stateBytes : Nat := 32

/-- The bytes of a link that reads an octet. -/
def readingLink : Nat := 8

/-- The bytes of a link that reads nothing. -/
def freeLink : Nat := 4

/-- How many bytes an automaton may take. -/
def sizeLimit : Nat := 10 * Nat.pow 2 20

/-- A step in laying an automaton. -/
abbrev Laying := StateT Extension (Except Error)

namespace Laying

/-- Fails if the automaton has become too large. -/
def check : Laying Unit := do
  let e ← get
  if sizeLimit < e.states * stateBytes + e.links then throw .tooLarge

/-- Adds so many states with so many bytes of links altogether. -/
def addStates (count links : Nat) : Laying Unit := do
  modify fun e => ⟨e.states + count, e.links + links⟩
  check

/-- Adds a state with so many bytes of links, and gives its number. -/
def addState (links : Nat) : Laying Nat := do
  let number := (← get).states
  addStates 1 links
  return number

end Laying

/-- Takes a number into a hash, octet or not (FNV-1a). -/
def hashWith (h : UInt64) (n : Nat) : UInt64 := (h ^^^ UInt64.ofNat n) * 1099511628211

/-- The slot of a key among so many. -/
def slotOf (slots : Nat) (key : List Nat) : Nat :=
  (key.foldl hashWith 14695981039346656037).toNat % slots

/-- What is remembered: for each slot the key that took it last, and the
number of its state. -/
abbrev Memory := Std.HashMap Nat (List Nat × Nat)

/-- The state of a key, as it is remembered or else newly added. -/
def reuse (slots : Nat) (key : List Nat) (links : Nat) (m : Memory) : Laying (Nat × Memory) := do
  let slot := slotOf slots key
  let add : Laying (Nat × Memory) := do
    let number ← Laying.addState links
    return (number, m.insert slot (key, number))
  match m[slot]? with
  | some (known, number) => if known == key then return (number, m) else add
  | none => add

/-- How many states for octets are remembered when reading forwards. -/
def forwardSlots : Nat := 10000

/-- How many states for octets are remembered when reading backwards. -/
def backwardSlots : Nat := 1000

/-- A state that is not yet complete: its links so far, each as the two ends
of its range and the state it leads to, and the range of the last link,
whose state is not known yet. -/
structure OpenState where
  links : List Nat
  last : Option OctetRange

/-- The open states, the outermost one first. -/
abbrev OpenStates := List OpenState

/-- Completes the last link of a state. -/
def OpenState.close (s : OpenState) (next : Nat) : List Nat :=
  match s.last with
  | some r => s.links ++ [r.lo.toNat, r.hi.toNat, next]
  | none => s.links

/-- The state with the given links. -/
def reuseLinks (links : List Nat) (m : Memory) : Laying (Nat × Memory) :=
  reuse forwardSlots links (links.length / 3 * readingLink) m

/-- Completes the states behind the first `keep + 1` and the last link of
the one in front of them. `target` is where characters end. -/
def closeFrom (target keep : Nat) (states : OpenStates) (m : Memory) :
    Laying (OpenStates × Memory) := do
  let (next, m) ← (states.drop (keep + 1)).reverse.foldlM (fun (next, m) s =>
    reuseLinks (s.close next) m) (target, m)
  let kept := states.take (keep + 1)
  let closed := match kept.getLast? with
    | some s => kept.dropLast ++ [⟨s.close next, none⟩]
    | none => kept
  return (closed, m)

/-- Adds a row. What it has in common with the one before is shared; the
rest of that one is completed. -/
def addRow (target : Nat) (row : List OctetRange) (states : OpenStates) (m : Memory) :
    Laying (OpenStates × Memory) := do
  let shared := ((List.zip row states).takeWhile fun p => p.2.last == some p.1).length
  let (states, m) ← closeFrom target shared states m
  let fresh := row.drop shared
  let opened := match states.getLast? with
    | some s => states.dropLast ++ [⟨s.links, fresh.head?⟩]
    | none => states
  return (opened ++ (fresh.drop 1).map fun r => ⟨[], some r⟩, m)

/-- Lays rows for reading forwards: states are shared where all that
follows is the same. -/
def layRowsForwards (rows : List (List OctetRange)) : Laying Unit := do
  let target ← Laying.addState 0
  let (states, m) ← rows.foldlM (fun (states, m) row => addRow target row states m)
    (([⟨[], none⟩] : OpenStates), (∅ : Memory))
  let (states, m) ← closeFrom target 0 states m
  let _ ← reuseLinks ((states.head?.map (·.links)).getD []) m

/-- Lays rows for reading backwards: a fork into all of them, with states
shared where they lead to the same. -/
def layRowsBackwards (rows : List (List OctetRange)) : Laying Unit := do
  Laying.addStates 1 (rows.length * freeLink)
  let target ← Laying.addState 0
  let _ ← rows.foldlM (fun (m : Memory) row => do
    let (_, m) ← row.foldlM (fun (next, m) r =>
      reuse backwardSlots [next, r.lo.toNat, r.hi.toNat] 0 m) (target, m)
    return m) (∅ : Memory)

/-- Words that begin at a state, in pieces that end where a word ends: the
words of a piece come before it in order of preference. A word that ends
where no other has gone on yet ends no further piece. -/
def pieces (words : List Bytes) : List (List Bytes) :=
  let (done, current, _) := words.foldl (fun (done, current, any) w =>
    match w with
    | [] => if !any && !done.isEmpty then (done, current, any) else (current :: done, [], any)
    | _ => (done, w :: current, true)) (([] : List (List Bytes)), ([] : List Bytes), false)
  ((current :: done).map List.reverse).reverse

/-- The rests of words behind their first octet, by that octet. -/
def byFirst (words : List Bytes) : List (List Bytes) :=
  let table := words.foldl (fun (t : Array (List Bytes)) w => match w with
    | b :: rest => t.modify b.toNat (rest :: ·)
    | [] => t) (Array.replicate 256 [])
  (table.toList.filter (!·.isEmpty)).map List.reverse

/-- How many states it takes to tell words apart, and the bytes of their
links; `depth` is more than their length. -/
def wordStates : Nat → List Bytes → Nat × Nat
  | 0, _ => (0, 0)
  | depth + 1, words =>
    if words.all List.isEmpty then (0, 0)
    else
      let ps := pieces words
      let groups := ps.map byFirst
      let inner := groups.flatten.map (wordStates depth)
      let readers := (groups.map List.length).filter (0 < ·)
      let readerLinks := (readers.map fun n => if n == 1 then 0 else n * readingLink).sum
      let forkLinks := (readers.length + (ps.length - 1)) * freeLink
      (inner.foldl (fun n p => n + p.1) (readers.length + 1),
        inner.foldl (fun n p => n + p.2) (readerLinks + forkLinks))

/-- Lays words. -/
def layWords (d : Direction) (words : List Bytes) : Laying Unit := do
  let read := if d == .forwards then words else words.map List.reverse
  let (states, links) := wordStates (words.foldl (fun n w => max n w.length) 0 + 1) read
  Laying.addStates (states + 1) links

/-- Lays something so many times. -/
def layTimes (lay : Laying Unit) : Nat → Laying Unit
  | 0 => return ()
  | n + 1 => do
    lay
    layTimes lay n

/-- Lays something repeated. A state that leads back or on has a link for
each way. -/
def layLoop (lay : Laying Unit) (least : Nat) (most : Option Nat) (mayBeEmpty : Bool) :
    Laying Unit := do
  let fork := Laying.addStates 1 (2 * freeLink)
  let exactly := fun n => if n == 0 then Laying.addStates 1 0 else layTimes lay n
  match most with
  | some m =>
    if least == m then exactly least
    else if least == 0 && m == 1 then
      fork
      lay
      Laying.addStates 1 0
    else
      exactly least
      Laying.addStates 1 0
      layTimes (do fork; lay) (m - least)
  | none =>
    if least == 0 then
      if mayBeEmpty then
        lay
        fork
        fork
        Laying.addStates 1 0
      else
        fork
        lay
    else
      layTimes lay least
      fork

mutual

/-- Lays a plan. What follows a part is linked to it when the part is laid. -/
def Plan.lay (d : Direction) : Plan → Laying Unit
  | .mark => Laying.addStates 1 0
  | .octets count => Laying.addStates count 0
  | .choice ranges => Laying.addStates 2 (ranges * readingLink)
  | .character rows => if d == .forwards then layRowsForwards rows else layRowsBackwards rows
  | .word words => layWords d words
  | .noted part => do
    if d == .forwards then Laying.addStates 1 0
    part.lay d
    if d == .forwards then Laying.addStates 1 0
  | .row parts => Plan.layRow d parts
  | .fork parts => Plan.layFork d (parts.length * freeLink) 2 parts
  | .loop part least most mayBeEmpty => layLoop (part.lay d) least most mayBeEmpty

/-- Lays several plans in the direction of reading. -/
def Plan.layRow (d : Direction) : List Plan → Laying Unit
  | [] => return ()
  | p :: ps =>
    if d == .forwards then do
      p.lay d
      Plan.layRow d ps
    else do
      Plan.layRow d ps
      p.lay d

/-- Lays several plans; after so many of them the states where their ways
part and meet again, of which the first has the given links. -/
def Plan.layFork (d : Direction) (links : Nat) (before : Nat) : List Plan → Laying Unit
  | [] => return ()
  | p :: ps => do
    p.lay d
    if before == 1 then Laying.addStates 2 links
    Plan.layFork d links (before - 1) ps

end

/-- Lays the whole automaton of an expression: what passes over characters
in front unless matches begin at the end it starts from, the expression,
and where it ends. -/
def Expr.layAutomaton (d : Direction) (e : Expr) : Laying Unit := do
  let extent := e.extent
  let tied := if d == .forwards then extent.atStart else extent.atEnd
  if tied then Laying.addStates 1 0
  else layLoop (Plan.lay d (.choice 1)) 0 none false
  Plan.lay d (.noted e.plan)
  Laying.addStates 1 0

/-- Fails if an automaton of an expression would become too large. -/
def Expr.checkSize (e : Expr) : Except Error Unit := do
  if !e.isWordList then
    let _ ← (e.layAutomaton .forwards).run ⟨0, 0⟩
    let _ ← (e.layAutomaton .backwards).run ⟨0, 0⟩

end ScriptMatrix.Regex
