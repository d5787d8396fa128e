import ScriptMatrix.Regex.Automaton.Octets
import ScriptMatrix.Regex.Expr
import ScriptMatrix.Text.Utf8

/-!
# `ScriptMatrix.Regex.Automaton.Plan`: of what parts an automaton is built

The plan of an automaton follows its expression, with characters written
as octets. The same plan serves for reading forwards and backwards.
-/

set_option autoImplicit false

namespace ScriptMatrix.Regex

open ScriptMatrix.Unicode (CharSet)

/-- The plan of an automaton. -/
inductive Plan where
  /-- A state that reads nothing. -/
  | mark
  /-- Octets, each read by a state of its own. -/
  | octets (count : Nat)
  /-- One octet out of so many ranges. -/
  | choice (ranges : Nat)
  /-- A character by the ranges of its octets. -/
  | character (rows : List (List OctetRange))
  /-- One of several words. -/
  | word (words : List Bytes)
  /-- A part whose match is noted. -/
  | noted (part : Plan)
  | row (parts : List Plan)
  | fork (parts : List Plan)
  /-- A part that is repeated; `mayBeEmpty` tells whether a round may take
  nothing. -/
  | loop (part : Plan) (least : Nat) (most : Option Nat) (mayBeEmpty : Bool)

/-- The words that all parts are. -/
def wordsOf? (parts : List Expr) : Option (List Bytes) :=
  parts.mapM fun
    | Expr.text cs => some (cs.flatMap String.utf8EncodeChar)
    | _ => none

/-- How one of a set of characters is read. -/
def Plan.ofSet (s : CharSet) : Plan :=
  if s.isAscii then .choice s.ranges.length else .character (octetRows s)

mutual

/-- The plan of the automaton of an expression. -/
def Expr.plan : Expr → Plan
  | .empty | .look _ => .mark
  | .text cs => .octets (cs.foldl (fun n c => n + c.utf8Size) 0)
  | .chars s => .ofSet s
  | .repeated part least most _ =>
    .loop part.plan least most (match part.extent.least with
      | some n => n == 0
      | none => true)
  | .captured part => .noted part.plan
  | .sequence parts => .row (Expr.plans parts)
  | .either parts =>
    match wordsOf? parts with
    | some words => .word words
    | none => .fork (Expr.plans parts)

/-- The plans of several expressions. -/
def Expr.plans : List Expr → List Plan
  | [] => []
  | e :: es => e.plan :: Expr.plans es

end

/-- From how many alternatives on words are searched for without an
automaton. -/
def manyWords : Nat := 3000

/-- Whether an expression is searched for without an automaton, since it
stands for nothing but many words. -/
def Expr.isWordList : Expr → Bool
  | .either parts => (wordsOf? parts).isSome && manyWords ≤ parts.length
  | _ => false

end ScriptMatrix.Regex
