import ScriptMatrix.Sandbox.Shell.Syntax

/-!
# `ScriptMatrix.Sandbox.Shell.Brace`: one word for several

In the extended dialect braces hold alternatives with commas between them,
or the ends of a range, and the word stands for one word for each. Braces
without either, and braces between quotes, stand for themselves.
-/

set_option autoImplicit false

namespace ScriptMatrix.Sandbox.Shell.Brace

/-- A word in parts: characters without quotes, and other pieces. -/
inductive Part where
  | char (c : Char)
  | piece (p : Piece)

/-- Whether a part is the given character. -/
def Part.isChar (c : Char) : Part → Bool
  | .char d => d == c
  | .piece _ => false

/-- The parts of a word. -/
def partsOf (w : Word) : List Part :=
  w.flatMap fun
    | .plain cs => cs.map Part.char
    | p => [.piece p]

/-- The word of parts. -/
def wordOf (parts : List Part) : Word :=
  parts.foldr (fun part w => match part, w with
    | .char c, .plain cs :: rest => .plain (c :: cs) :: rest
    | .char c, rest => .plain [c] :: rest
    | .piece p, rest => p :: rest) []

/-- The alternatives up to the closing brace, and what follows it. Braces
within belong to their alternative. -/
def alternatives? : Nat → List Part → Option (List (List Part) × List Part)
  | _, [] => none
  | depth, p :: rest =>
    if depth == 0 && p.isChar '\x7d' then some ([[]], rest)
    else
      let inner :=
        if p.isChar '\x7b' then depth + 1
        else if p.isChar '\x7d' then depth - 1
        else depth
      match alternatives? inner rest with
      | some (w :: ws, after) =>
        if depth == 0 && p.isChar ',' then some ([] :: w :: ws, after)
        else some ((p :: w) :: ws, after)
      | _ => none

/-- The characters of parts that are nothing else. -/
def plain? (parts : List Part) : Option Chars :=
  parts.mapM fun
    | .char c => some c
    | .piece _ => none

/-- The most words that a range stands for. -/
def rangeLimit : Nat := 100000

/-- From one number to another, up or down. -/
def range (a b : Int) (step : Nat) : List Int :=
  (List.range ((b - a).natAbs / step + 1)).map fun (n : Nat) =>
    if a ≤ b then a + n * step else a - n * step

/-- The pieces between double dots. -/
def splitDots : Chars → List Chars
  | [] => [[]]
  | '.' :: '.' :: cs => [] :: splitDots cs
  | c :: cs =>
    match splitDots cs with
    | front :: others => (c :: front) :: others
    | [] => [[c]]

/-- How wide the numbers of a range have to be: as wide as its ends, if one
of them begins with a zero. -/
def widthOf (a b : Chars) : Nat :=
  let padded := fun (cs : Chars) => match cs.dropWhile fun c => c == '-' || c == '+' with
    | '0' :: _ :: _ => true
    | _ => false
  if padded a || padded b then max a.length b.length else 0

/-- A number of the given width. -/
def padded (width : Nat) (i : Int) : Chars :=
  let ds := digits i.natAbs
  let sign : Chars := if i < 0 then ['-'] else []
  sign ++ List.replicate (width - ds.length - sign.length) '0' ++ ds

/-- The texts of a range. -/
def range? (cs : Chars) : Option (List Chars) :=
  let made := fun (a b : Chars) (step : Int) =>
    let step := if step == 0 then 1 else step.natAbs
    match integer? a, integer? b, a, b with
    | some i, some j, _, _ =>
      if (j - i).natAbs / step < rangeLimit then
        some ((range i j step).map (padded (widthOf a b)))
      else none
    | _, _, [x], [y] =>
      if isLetter x && isLetter y then
        some ((range x.toNat y.toNat step).map fun k => [Char.ofNat k.toNat])
      else none
    | _, _, _, _ => none
  match splitDots cs with
  | [a, b] => made a b 1
  | [a, b, step] => (integer? step).bind (made a b)
  | _ => none

/-- The words that parts stand for; `fuel` bounds them. A dollar sign in
front of a brace keeps it from standing for anything. -/
def expandFrom : Nat → List Part → List (List Part)
  | 0, parts => [parts]
  | _, [] => [[]]
  | fuel + 1, p :: rest =>
    let unchanged := fun (_ : Unit) => (expandFrom fuel rest).map (p :: ·)
    if !p.isChar '\x7b' then unchanged ()
    else match alternatives? 0 rest with
      | some ([w], after) =>
        match (plain? w).bind range? with
        | some texts =>
          let tails := expandFrom fuel after
          texts.flatMap fun t => tails.map (t.map Part.char ++ ·)
        | none => unchanged ()
      | some (ws, after) =>
        let tails := expandFrom fuel after
        ws.flatMap fun w => (expandFrom fuel w).flatMap fun x => tails.map (x ++ ·)
      | none => unchanged ()

/-- The words that a word stands for. -/
def expand (w : Word) : List Word :=
  let parts := partsOf w
  if parts.any (·.isChar '\x7b') then (expandFrom (parts.length + 1) parts).map wordOf else [w]

end ScriptMatrix.Sandbox.Shell.Brace
