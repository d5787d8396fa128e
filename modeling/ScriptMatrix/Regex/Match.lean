import ScriptMatrix.Regex.Expr

/-!
# `ScriptMatrix.Regex.Match`: what an expression matches

Matching works on sets of places between the characters of a text:
`reach` takes the places where a match may begin to those where it may
end. So alternatives are unions, what follows goes on from the places
reached, and a repetition needs no more rounds than there are places.
-/

set_option autoImplicit false

namespace ScriptMatrix.Regex

/-- A set of places: for each place, whether it belongs. -/
abbrev PlaceSet := List Bool

/-- Takes a set of places through `f` so many times, or until that
changes nothing. -/
def power (f : PlaceSet → PlaceSet) : Nat → PlaceSet → PlaceSet
  | 0, s => s
  | n + 1, s =>
    let s' := f s
    if s' == s then s else power f n s'

/-- The union of two sets of places. -/
def unite (s t : PlaceSet) : PlaceSet := List.zipWith (· || ·) s t

/-- The places behind characters that satisfy a condition and stand behind
the given places. -/
def advance (text : List Char) (p : Char → Bool) (starts : PlaceSet) : PlaceSet :=
  false :: List.zipWith (fun on c => on && p c) starts text

/-- The places behind a text that begins at the given ones. -/
def advanceText (text : List Char) : List Char → PlaceSet → PlaceSet
  | [], starts => starts
  | c :: cs, starts =>
    let next := advance text (· == c) starts
    if next.contains true then advanceText text cs next else next

mutual

/-- The places where matches end that begin at the given ones. -/
def Expr.reach (text : List Char) : Expr → PlaceSet → PlaceSet
  | .empty, starts => starts
  | .text cs, starts => advanceText text cs starts
  | .chars s, starts => advance text s.has starts
  | .look l, starts => List.zipWith (fun on p => on && l.holds p) starts (places text)
  | .captured part, starts => part.reach text starts
  | .sequence parts, starts => Expr.reachAll text parts starts
  | .either parts, starts => Expr.reachAny text parts starts
  | .repeated part least most _, starts =>
    let rounds := text.length + 1
    let begun := power (part.reach text) (min least rounds) starts
    let more := match most with
      | none => rounds
      | some m => min (m - least) rounds
    power (fun s => unite s (part.reach text s)) more begun

/-- `Expr.reach` of parts one after the other. -/
def Expr.reachAll (text : List Char) : List Expr → PlaceSet → PlaceSet
  | [], starts => starts
  | e :: es, starts => Expr.reachAll text es (e.reach text starts)

/-- `Expr.reach` of one part or another. -/
def Expr.reachAny (text : List Char) : List Expr → PlaceSet → PlaceSet
  | [], starts => starts.map fun _ => false
  | e :: es, starts => unite (e.reach text starts) (Expr.reachAny text es starts)

end

/-- Whether an expression matches anywhere in a text. -/
def Expr.matchesIn (e : Expr) (text : List Char) : Bool :=
  (e.reach text (List.replicate (text.length + 1) true)).any id

end ScriptMatrix.Regex
