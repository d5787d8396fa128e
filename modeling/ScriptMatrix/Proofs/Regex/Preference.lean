import Mathlib.Data.List.TakeWhile
import ScriptMatrix.Regex

/-!
# `ScriptMatrix.Proofs.Regex.Preference`: which match is meant

Whether an expression matches depends on the places that matches reach
(`Expr.reach`). What a group has matched depends on more: a text can match in
several ways, and the one that is meant begins first and is the preferred one of
those that begin there.

`Expr.ways` lists the ways to match from a place on, the preferred ones first. Of
alternatives the earlier is preferred. A greedy repetition prefers another round
to its end, and a stingy one its end to another round. What follows a part is
tried behind each of its ways in turn, so a way of the part counts only if what
follows can match behind it. `Expr.group?` is the text of the group in the match
that is meant.

The lemmas are about repetitions of single characters. Where what follows a greedy
one cannot begin with such a character, only the longest run counts
(`flatMap_rounds_greedy`). A stingy one is tried from the empty run on
(`rounds_stingy_cons`).
-/

set_option autoImplicit false

namespace ScriptMatrix.Regex

/-- How far a match has come. `group` is the last thing that a group has matched, as the
expressions here have one. -/
structure Stage where
  /-- The character in front of the place. -/
  before : Option Char
  /-- The text behind the place. -/
  rest : List Char
  /-- What the group has matched. -/
  group : Option (List Char)
  deriving Repr, DecidableEq

namespace Stage

/-- Goes past a character that satisfies a condition, if there is one. -/
def take (p : Char → Bool) (s : Stage) : List Stage :=
  match s.rest with
  | [] => []
  | c :: cs => if p c then [⟨some c, cs, s.group⟩] else []

/-- Goes past a text, character by character. -/
def takeText : List Char → Stage → List Stage
  | [], s => [s]
  | c :: cs, s => (s.take (· == c)).flatMap (takeText cs)

/-- What lies between a place and a later one. This is what a group has matched that begins
and ends there. -/
def upTo (s t : Stage) : List Char := s.rest.take (s.rest.length - t.rest.length)

/-- Goes through up to `fuel` rounds of a repetition, of which `least` have to be
and `most` may be. A round that takes nothing is the last one. -/
def rounds (step : Stage → List Stage) (greedy : Bool) :
    Nat → Nat → Option Nat → Stage → List Stage
  | 0, _, _, _ => []
  | fuel + 1, least, most, s =>
    let more := if most == some 0 then [] else (step s).flatMap fun t =>
      if t.rest.length < s.rest.length then
        rounds step greedy fuel (least - 1) (most.map (· - 1)) t
      else [t]
    if 0 < least then more else if greedy then more ++ [s] else s :: more

end Stage

mutual

/-- The ways to match from a place on, the preferred ones first. All rounds of a
repetition but the last take something, so there are not more than characters
are left and one. -/
def Expr.ways : Expr → Stage → List Stage
  | .empty, s => [s]
  | .text cs, s => s.takeText cs
  | .chars set, s => s.take set.has
  | .look l, s => if l.holds ⟨s.before, s.rest.head?⟩ then [s] else []
  | .repeated part least most greedy, s =>
    Stage.rounds part.ways greedy (s.rest.length + 1) least most s
  | .captured part, s => (part.ways s).map fun t => { t with group := some (s.upTo t) }
  | .sequence parts, s => Expr.waysAll parts s
  | .either parts, s => Expr.waysAny parts s

/-- The ways to match parts one after the other. What follows is tried behind each way of
the first part in turn. -/
def Expr.waysAll : List Expr → Stage → List Stage
  | [], s => [s]
  | e :: es, s => (e.ways s).flatMap (Expr.waysAll es)

/-- The ways to match one part or another. Those of an earlier part are preferred. -/
def Expr.waysAny : List Expr → Stage → List Stage
  | [], _ => []
  | e :: es, s => e.ways s ++ Expr.waysAny es s

end

/-- The match that is meant from a place on: the preferred one of those that begin
first. -/
def Expr.matchFrom? (e : Expr) (before : Option Char) : List Char → Option Stage
  | [] => (e.ways ⟨before, [], none⟩).head?
  | c :: cs => (e.ways ⟨before, c :: cs, none⟩).head? <|> e.matchFrom? (some c) cs

/-- What the group of an expression with one group has matched in a text, if it has
matched. -/
def Expr.group? (e : Expr) (text : List Char) : Option (List Char) := do
  (← e.matchFrom? none text).group

/-- The expression that a text writes, no matter how large its automaton is. -/
def Expr.ofText (text : String) : Except Error Expr := do
  return (← (← Pattern.read text).expr.run {}).1

namespace Stage

variable {p : Char → Bool} {before : Option Char} {group : Option (List Char)}
  {c : Char} {cs : List Char}

/-! ### Texts -/

/-- A text is passed where it stands. The character in front of the place changes to its
last one, which no later lemma needs to know. -/
theorem takeText_append (w rest : List Char) (before : Option Char) :
    ∃ before', takeText w ⟨before, w ++ rest, group⟩ = [⟨before', rest, group⟩] := by
  induction w generalizing before with
  | nil => exact ⟨before, rfl⟩
  | cons c w ih =>
    obtain ⟨before', h⟩ := ih (some c)
    refine ⟨before', ?_⟩
    rw [takeText, List.cons_append, take]
    simpa using h

/-- Where a text does not stand it is not passed, whatever was matched before. -/
theorem takeText_of_not_isPrefixOf {w : List Char} (h : w.isPrefixOf cs = false)
    (before : Option Char) : takeText w ⟨before, cs, group⟩ = [] := by
  induction w generalizing cs before with
  | nil => cases h
  | cons d w ih =>
    rw [takeText, take]
    -- The first characters differ, or the others do.
    cases cs with
    | nil => rfl
    | cons c cs =>
      dsimp only
      split
      case isFalse => rfl
      case isTrue hsame =>
        rw [beq_iff_eq] at hsame
        subst hsame
        rw [List.flatMap_singleton]
        exact ih (by simpa [List.isPrefixOf] using h) (some c)

/-! ### Rounds of single characters -/

/-- At the end of the text no round is possible, so a repetition of none is all there is. -/
theorem rounds_nil (greedy : Bool) (fuel : Nat) :
    rounds (take p) greedy (fuel + 1) 0 none ⟨before, [], group⟩ = [⟨before, [], group⟩] := by
  cases greedy <;> rfl

/-- Another round takes another character. Greedy and stingy repetitions differ in which of
the two comes first. -/
theorem rounds_cons (greedy : Bool) (fuel : Nat) :
    rounds (take p) greedy (fuel + 1) 0 none ⟨before, c :: cs, group⟩ =
      let more := if p c then rounds (take p) greedy fuel 0 none ⟨some c, cs, group⟩ else []
      if greedy then more ++ [⟨before, c :: cs, group⟩] else ⟨before, c :: cs, group⟩ :: more := by
  rw [rounds, take]
  cases hc : p c <;> simp [hc]

/-- If what follows cannot begin with one more character, it goes on behind the longest run.
All shorter runs are ways as well, but nothing matches behind them. -/
theorem flatMap_rounds_greedy {β : Type} {k : Stage → List β}
    (hk : ∀ before c cs, p c = true → k ⟨before, c :: cs, group⟩ = []) {fuel : Nat}
    (hfuel : cs.length < fuel) (before : Option Char) :
    ∃ before', (rounds (take p) true fuel 0 none ⟨before, cs, group⟩).flatMap k
      = k ⟨before', cs.dropWhile p, group⟩ := by
  induction cs generalizing fuel before with
  | nil =>
    obtain ⟨fuel, rfl⟩ := Nat.exists_eq_add_one_of_ne_zero (Nat.ne_zero_of_lt hfuel)
    exact ⟨before, by rw [rounds_nil, List.flatMap_singleton]; rfl⟩
  | cons c cs ih =>
    obtain ⟨fuel, rfl⟩ := Nat.exists_eq_add_one_of_ne_zero (Nat.ne_zero_of_lt hfuel)
    have hless : cs.length < fuel := by simpa using hfuel
    rw [rounds_cons]
    dsimp only
    rw [if_pos rfl, List.flatMap_append, List.flatMap_singleton]
    cases hc : p c with
    | true =>
      -- The shorter run is behind the longer ones, and does not count.
      obtain ⟨before', h⟩ := ih hless (some c)
      refine ⟨before', ?_⟩
      rw [if_pos rfl, h, hk _ _ _ hc, List.append_nil, List.dropWhile_cons_of_pos hc]
    | false =>
      refine ⟨before, ?_⟩
      rw [if_neg Bool.false_ne_true, List.flatMap_nil, List.nil_append,
        List.dropWhile_cons_of_neg (by simp [hc])]

/-- The longest run counts also where one round has to be. The first character is then taken
by that round. -/
theorem flatMap_rounds_greedy_one {β : Type} {k : Stage → List β}
    (hk : ∀ before c cs, p c = true → k ⟨before, c :: cs, group⟩ = []) {fuel : Nat}
    (hfuel : cs.length + 1 < fuel) (before : Option Char) (c : Char) :
    ∃ before', (rounds (take p) true fuel 1 none ⟨before, c :: cs, group⟩).flatMap k
      = if p c then k ⟨before', cs.dropWhile p, group⟩ else [] := by
  obtain ⟨fuel, rfl⟩ := Nat.exists_eq_add_one_of_ne_zero (Nat.ne_zero_of_lt hfuel)
  obtain ⟨before', h⟩ := flatMap_rounds_greedy hk (show cs.length < fuel by omega) (some c)
  refine ⟨before', ?_⟩
  rw [rounds, take]
  -- The round that has to be takes the first character, and then as many may follow as
  -- there are.
  cases hc : p c with
  | true => simpa [hc] using h
  | false => simp [hc]

/-- A stingy repetition may end here or go on behind one more character, and prefers to end. -/
theorem rounds_stingy_cons (fuel : Nat) :
    rounds (take p) false (fuel + 1) 0 none ⟨before, c :: cs, group⟩ =
      ⟨before, c :: cs, group⟩ ::
        if p c then rounds (take p) false fuel 0 none ⟨some c, cs, group⟩ else [] := by
  rw [rounds_cons]
  rfl

end Stage

/-- Parts that begin with repeated characters go through the rounds of these. This is where
the lemmas on `Stage.rounds` apply to expressions. -/
theorem Expr.waysAll_repeated (set : Unicode.CharSet) (least : Nat) (most : Option Nat)
    (greedy : Bool) (es : List Expr) (s : Stage) :
    Expr.waysAll (.repeated (.chars set) least most greedy :: es) s
      = (Stage.rounds (Stage.take set.has) greedy (s.rest.length + 1) least most s).flatMap
          (Expr.waysAll es) := by
  have hstep : (Expr.chars set).ways = Stage.take set.has := by
    funext t
    rw [ways]
  rw [waysAll, ways, hstep]

/-- An expression that is tied to the start of a text matches from there or not at all. So
the search for the first place is over at once. -/
theorem Expr.group?_textStart (parts : List Expr) (text : List Char) :
    (Expr.sequence (.look .textStart :: parts)).group? text
      = ((Expr.waysAll parts ⟨none, text, none⟩).map Stage.group).head?.join := by
  let e := Expr.sequence (.look .textStart :: parts)
  have hstart : ∀ rest, e.ways ⟨none, rest, none⟩ = Expr.waysAll parts ⟨none, rest, none⟩ := by
    intro rest
    simp [e, Expr.ways, Expr.waysAll, Look.holds]
  -- Behind any character the start of the text is missed, so the later places give nothing.
  have hbehind : ∀ c rest, e.matchFrom? (some c) rest = none := by
    intro c rest
    have hways : ∀ d cs, e.ways ⟨some d, cs, none⟩ = [] := by
      intro d cs
      simp [e, Expr.ways, Expr.waysAll, Look.holds]
    induction rest generalizing c with
    | nil => rw [matchFrom?, hways]; rfl
    | cons d rest ih => rw [matchFrom?, hways, ih]; rfl
  -- So the match begins at the start, and it is the preferred one of those.
  have hmatch : e.matchFrom? none text = (Expr.waysAll parts ⟨none, text, none⟩).head? := by
    cases text with
    | nil => rw [matchFrom?, hstart]
    | cons c cs =>
      rw [matchFrom?, hstart, hbehind]
      cases (Expr.waysAll parts ⟨none, c :: cs, none⟩).head? <;> rfl
  show (e.matchFrom? none text).bind Stage.group = _
  rw [hmatch, List.head?_map]
  cases (Expr.waysAll parts ⟨none, text, none⟩).head? <;> rfl

end ScriptMatrix.Regex
