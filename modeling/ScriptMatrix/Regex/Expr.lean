import ScriptMatrix.Regex.Look

/-!
# `ScriptMatrix.Regex.Expr`: expressions in their simplest form

An `Expr` is an expression with its flags applied. It is put together by
functions that keep it simple: neighbouring texts are joined, sequences
and alternatives do not hold others of their kind, alternatives of single
characters are one set, and what all alternatives begin with stands once
in front of them. None of this changes what an expression matches, but it
decides how large its automaton becomes.
-/

set_option autoImplicit false

namespace ScriptMatrix.Regex

open ScriptMatrix.Unicode (CharSet)

/-- An expression. -/
inductive Expr where
  | empty
  /-- A text, not the empty one. -/
  | text (cs : List Char)
  /-- One character of a set. -/
  | chars (s : CharSet)
  | look (l : Look)
  | repeated (part : Expr) (least : Nat) (most : Option Nat) (greedy : Bool)
  /-- A group whose match can be asked for. -/
  | captured (part : Expr)
  | sequence (parts : List Expr)
  | either (parts : List Expr)
  deriving Repr

/-- What is known of an expression's matches: how many bytes they have,
and whether they can only begin or end at an end of the text. -/
structure Extent where
  /-- The least number of bytes; none where nothing matches. -/
  least : Option Nat
  /-- The greatest number of bytes, if there is one. -/
  most : Option Nat
  atStart : Bool
  atEnd : Bool
  deriving Repr, DecidableEq

namespace Extent

/-- The extent of the empty expression. -/
def idle : Extent := ⟨some 0, some 0, false, false⟩

/-- Whether a match may take characters. -/
def mayTake (e : Extent) : Bool := e.most != some 0

/-- Whether one of some parts in front satisfies a condition, up to the
first that may take characters. -/
def anyInFront (p : Extent → Bool) : List Extent → Bool
  | [] => false
  | e :: es => p e || (!e.mayTake && anyInFront p es)

/-- The sum of two numbers that may be missing. -/
def add (a b : Option Nat) : Option Nat := do return (← a) + (← b)

/-- The extent of parts one after the other. -/
def sequence (es : List Extent) : Extent where
  least := es.foldr (fun e n => add e.least n) (some 0)
  most := es.foldr (fun e n => add e.most n) (some 0)
  atStart := anyInFront atStart es
  atEnd := anyInFront atEnd es.reverse

/-- One number chosen from two that must both be there. -/
def both (f : Nat → Nat → Nat) (a b : Option Nat) : Option Nat := do return f (← a) (← b)

/-- The extent of one part or another. -/
def either : List Extent → Extent
  | [] => ⟨none, none, false, false⟩
  | e :: es => es.foldl (fun a b =>
      ⟨both min a.least b.least, both max a.most b.most,
        a.atStart && b.atStart, a.atEnd && b.atEnd⟩) e

/-- The extent of a part that is repeated. -/
def repeated (e : Extent) (least : Nat) (most : Option Nat) : Extent where
  least := e.least.map (· * least)
  most := do return (← e.most) * (← most)
  atStart := 0 < least && e.atStart
  atEnd := 0 < least && e.atEnd

/-- The extent of a set of characters. -/
def ofChars (s : CharSet) : Extent :=
  let width := fun (n : Nat) => if n ≤ 0x7f then 1 else if n ≤ 0x7ff then 2
    else if n ≤ 0xffff then 3 else 4
  ⟨s.ranges.head?.map fun r => width r.1, s.ranges.getLast?.map fun r => width r.2, false, false⟩

end Extent

namespace Expr

mutual

/-- The extent of an expression. -/
def extent : Expr → Extent
  | .empty => .idle
  | .text cs =>
    let n := cs.foldl (fun n c => n + c.utf8Size) 0
    ⟨some n, some n, false, false⟩
  | .chars s => .ofChars s
  | .look l => ⟨some 0, some 0, l == .textStart, l == .textEnd⟩
  | .repeated part least most _ => part.extent.repeated least most
  | .captured part => part.extent
  | .sequence parts => .sequence (extents parts)
  | .either parts => .either (extents parts)

/-- The extents of several expressions. -/
def extents : List Expr → List Extent
  | [] => []
  | e :: es => e.extent :: extents es

end

mutual

/-- Whether two expressions are written alike. Groups whose match can be
asked for are told apart. -/
def same : Expr → Expr → Bool
  | .empty, .empty => true
  | .text a, .text b => a == b
  | .chars s, .chars t => s == t
  | .look l, .look m => l == m
  | .repeated a least most greedy, .repeated b least' most' greedy' =>
    least == least' && most == most' && greedy == greedy' && same a b
  | .sequence as, .sequence bs => sameAll as bs
  | .either as, .either bs => sameAll as bs
  | _, _ => false

/-- `same` one by one. -/
def sameAll : List Expr → List Expr → Bool
  | [], [] => true
  | a :: as, b :: bs => same a b && sameAll as bs
  | _, _ => false

end

mutual

/-- How many parts an expression consists of. -/
def size : Expr → Nat
  | .empty | .text _ | .chars _ | .look _ => 1
  | .repeated part _ _ _ => 1 + part.size
  | .captured part => 1 + part.size
  | .sequence parts => 1 + sizes parts
  | .either parts => 1 + sizes parts

/-- The sizes of several expressions together. -/
def sizes : List Expr → Nat
  | [] => 0
  | e :: es => e.size + sizes es

end

/-- One character of a set, where surrogates do not count as characters.
A single one is a text. -/
def ofSet (s : CharSet) : Expr :=
  let inside : List (Nat × Nat) := s.ranges.flatMap fun r =>
    [(r.1, min r.2 0xd7ff), (max r.1 0xe000, r.2)].filter fun r => r.1 ≤ r.2
  match inside with
  | [(lo, hi)] => if lo == hi then .text [Char.ofNat lo] else .chars ⟨inside⟩
  | _ => .chars ⟨inside⟩

/-- Joins texts that stand next to each other. -/
def joinTexts (parts : List Expr) : List Expr :=
  parts.foldr (fun p joined => match p, joined with
    | .text a, .text b :: rest => .text (a ++ b) :: rest
    | p, joined => p :: joined) []

/-- Parts one after the other. -/
def ofSequence (parts : List Expr) : Expr :=
  let flat := parts.flatMap fun
    | .empty => []
    | .sequence inner => inner
    | p => [p]
  match joinTexts flat with
  | [] => .empty
  | [p] => p
  | joined => .sequence joined

/-- A part that is repeated. One that takes nothing need not be repeated
more than once. -/
def ofRepetition (part : Expr) (least : Nat) (most : Option Nat) (greedy : Bool) : Expr :=
  let idle := !part.extent.mayTake
  let least := if idle then min least 1 else least
  let most := if idle then some (min (most.getD 1) 1) else most
  if most == some 0 then .empty
  else if least == 1 && most == some 1 then part
  else .repeated part least most greedy

/-- The set of the single characters that all parts are. -/
def singleChars? (parts : List Expr) : Option CharSet :=
  (parts.mapM fun
    | Expr.text [c] => some c.toNat
    | _ => none).map .ofList

/-- The set of the characters in the sets that all parts are. -/
def unionOfSets? (parts : List Expr) : Option CharSet :=
  (parts.mapM fun
    | Expr.chars s => some s
    | _ => none).map fun (sets : List CharSet) => sets.foldl CharSet.union .empty

/-- How many parts two sequences begin with in common. -/
def commonLength (as bs : List Expr) : Nat :=
  ((List.zip as bs).takeWhile fun p => same p.1 p.2).length

/-- The parts of the sequences that all parts are, if they begin alike:
what they begin with, and what follows in each. -/
def commonFront? (parts : List Expr) : Option (List Expr × List (List Expr)) := do
  let rows ← parts.mapM fun
    | Expr.sequence inner => some inner
    | _ => none
  let first ← rows.head?
  let n := rows.foldl (fun n row => min n (commonLength first row)) first.length
  guard (0 < n)
  return (first.take n, rows.map (·.drop n))

/-- One part or another, where taking out common fronts may go on for so
many steps. -/
def ofAlternativesIn : Nat → List Expr → Expr
  | 0, parts => .either parts
  | fuel + 1, parts =>
    let flat := parts.flatMap fun
      | .either inner => inner
      | p => [p]
    match flat with
    | [] => .chars .empty
    | [p] => p
    | flat =>
      match singleChars? flat <|> unionOfSets? flat with
      | some s => ofSet s
      | none =>
        match commonFront? flat with
        | none => .either flat
        | some (front, rests) =>
          ofSequence (front ++ [ofAlternativesIn fuel (rests.map ofSequence)])

/-- One part or another. Each common front that is taken out leaves fewer
parts, so there are no more steps than parts. -/
def ofAlternatives (parts : List Expr) : Expr := ofAlternativesIn (sizes parts + 1) parts

end Expr

end ScriptMatrix.Regex
