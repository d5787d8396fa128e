import ScriptMatrix.Sandbox.Expression
import ScriptMatrix.Sandbox.Program.Basic
import ScriptMatrix.Sandbox.Real

/-!
# `ScriptMatrix.Sandbox.Program.Sum`: programs that reckon

An expression is written as one argument for each number and operator. A
row of numbers goes from a first one to a last one in steps.
-/

set_option autoImplicit false

namespace ScriptMatrix.Sandbox.Program

open Sandbox.Shell

/-- Why an expression has no value. -/
inductive ExprTrouble where
  | spelling (message : Chars)
  | notANumber
  | zero
  deriving Repr

/-- The integer that a text writes. -/
def exprNumber? (cs : Chars) : Option Int :=
  match cs with
  | '-' :: ds => (natural? ds).map fun n => -(n : Int)
  | ds => (natural? ds).map fun n => (n : Int)

/-- Whether a text counts as nothing. -/
def exprIsNull (cs : Chars) : Bool :=
  cs.isEmpty || (let ds := if cs.head? == some '-' then cs.drop 1 else cs
    !ds.isEmpty && ds.all (· == '0'))

/-- A value and the arguments behind it. -/
abbrev ExprStep := Except ExprTrouble (Chars × List Chars)

/-- What an expression matches at the front of a text: its first group, or
how many characters. -/
def exprMatch (text pattern : Chars) : Except ExprTrouble Chars :=
  match Expression.read? .basic (pattern.map fun c => (c, false)) with
  | none => .error (.spelling "Invalid regular expression".toList)
  | some (e, groups) =>
    let anchored := Expression.sequence [.front, e]
    match Expression.find? false anchored text 0 with
    | some (a, b, found) =>
      if 0 < groups then
        match found.lookup 1 with
        | some (x, y) => .ok ((text.drop x).take (y - x))
        | none => .ok []
      else .ok (digits (b - a))
    | none => .ok (if 0 < groups then [] else ['0'])

/-- The operators of an expression, by how tightly they bind. -/
def exprLevels : List (List String) :=
  [["|"], ["&"], ["<", "<=", "=", "==", "!=", ">=", ">"], ["+", "-"], ["*", "/", "%"], [":"]]

/-- What an operator makes of two values. -/
def exprOperate (op : String) (a b : Chars) : Except ExprTrouble Chars := do
  let truth := fun (c : Bool) => (if c then ['1'] else ['0'] : Chars)
  match op with
  | "|" => return if !exprIsNull a then a else if !exprIsNull b then b else ['0']
  | "&" => return if exprIsNull a || exprIsNull b then ['0'] else a
  | ":" => exprMatch a b
  | "+" | "-" | "*" | "/" | "%" =>
    match exprNumber? a, exprNumber? b with
    | some i, some j =>
      match op with
      | "+" => return signedDigits (i + j)
      | "-" => return signedDigits (i - j)
      | "*" => return signedDigits (i * j)
      | _ =>
        if j == 0 then throw .zero
        return signedDigits (if op == "/" then i.tdiv j else i.tmod j)
    | _, _ => throw .notANumber
  | _ =>
    let order : Ordering := match exprNumber? a, exprNumber? b with
      | some i, some j => compare i j
      | _, _ => if comesBefore a b then .lt else if a == b then .eq else .gt
    return truth <| match op with
      | "<" => order == .lt
      | "<=" => order != .gt
      | "=" | "==" => order == .eq
      | "!=" => order != .eq
      | ">=" => order != .lt
      | _ => order == .gt

mutual

/-- Reads values between the operators of a level. -/
def exprLevel : Nat → Nat → List Chars → ExprStep
  | 0, _, _ => .error (.spelling "syntax error".toList)
  | fuel + 1, level, ts => do
    match exprLevels[level]? with
    | none => exprOne fuel ts
    | some ops =>
      let (a, rest) ← exprLevel fuel (level + 1) ts
      exprMore fuel level ops a rest

/-- Reads what follows a value on its level. -/
def exprMore : Nat → Nat → List String → Chars → List Chars → ExprStep
  | 0, _, _, _, _ => .error (.spelling "syntax error".toList)
  | fuel + 1, level, ops, a, ts => do
    match ts with
    | op :: rest =>
      if ops.contains (String.ofList op) then
        if rest.isEmpty then
          throw (.spelling ("syntax error: missing argument after ".toList ++ quoted op))
        let (b, rest) ← exprLevel fuel (level + 1) rest
        exprMore fuel level ops (← exprOperate (String.ofList op) a b) rest
      else return (a, ts)
    | [] => return (a, [])

/-- Reads a single value. -/
def exprOne : Nat → List Chars → ExprStep
  | 0, _ => .error (.spelling "syntax error".toList)
  | fuel + 1, ts => do
    match ts.map String.ofList, ts with
    | "(" :: _, _ :: rest =>
      let (a, after) ← exprLevel fuel 0 rest
      match after with
      | [')'] :: more => return (a, more)
      | _ => throw (.spelling "syntax error: expecting ')'".toList)
    | "length" :: _, _ :: cs :: rest => return (digits cs.length, rest)
    | "substr" :: _, _ :: cs :: pos :: len :: rest =>
      match exprNumber? pos, exprNumber? len with
      | some p, some n =>
        if p ≤ 0 || n ≤ 0 then return ([], rest)
        return ((cs.drop (p.toNat - 1)).take n.toNat, rest)
      | _, _ => return ([], rest)
    | "index" :: _, _ :: cs :: set :: rest =>
      return (digits ((cs.findIdx? set.contains).elim 0 (· + 1)), rest)
    | "match" :: _, _ :: cs :: p :: rest => return (← exprMatch cs p, rest)
    | "+" :: _, _ :: cs :: rest => return (cs, rest)
    | _, cs :: rest => return (cs, rest)
    | _, [] => throw (.spelling "missing operand".toList)

end

/-- Shows the value of an expression. -/
def expr : Body := fun args => do
  let args := if args.head? == some ['-', '-'] then args.drop 1 else args
  if args.isEmpty then
    complain "expr" "missing operand".toList
    return 2
  let result := do
    let (a, rest) ← exprLevel (20 * args.length + 20) 0 args
    match rest with
    | [] => return a
    | t :: _ => throw (.spelling ("syntax error: unexpected argument ".toList ++ quoted t))
  match (result : Except ExprTrouble Chars) with
  | .ok cs =>
    Act.write 1 (cs ++ ['\n'])
    return if exprIsNull cs then 1 else 0
  | .error (.spelling message) =>
    complain "expr" message
    return 2
  | .error .notANumber =>
    complain "expr" "non-integer argument".toList
    return 2
  | .error .zero =>
    complain "expr" "division by zero".toList
    return 2

/-- How many places a number is written with. -/
def placesOf (cs : Chars) : Nat :=
  match cs.dropWhile (· != '.') with
  | _ :: part => part.length
  | [] => 0

/-- A decimal number as hundredths or smaller, by the number of places. -/
def decimal? (places : Nat) (cs : Chars) : Option Int :=
  let (negative, body) := match cs with
    | '-' :: rest => (true, rest)
    | '+' :: rest => (false, rest)
    | _ => (false, cs)
  let whole := body.takeWhile (· != '.')
  let part := (body.drop (whole.length + 1))
  let all := whole ++ part ++ List.replicate (places - part.length) '0'
  if (whole.isEmpty && part.isEmpty) || !(whole ++ part).all isDigit then none
  else
    let n : Int := numberIn 10 all
    some (if negative then -n else n)

/-- A number of smaller units with a point. -/
def decimalText (places : Nat) (i : Int) : Chars :=
  let body := Real.fixed places i.natAbs (Nat.pow 10 places) false
  if i < 0 then '-' :: body else body

/-- Shows a row of numbers. -/
def seq : Body := fun args => do
  let isNumber : Chars → Bool := fun
    | '-' :: c :: _ => isDigit c || c == '.'
    | _ => false
  -- Negative numbers are no options.
  let options := args.takeWhile fun a => a.head? == some '-' && !isNumber a
  let valued := options.getLast?.any fun a => [['-', 's'], ['-', 'f']].contains a
  let optionCount := options.length + if valued then 1 else 0
  match Options.read "w" "sf"
      (shorten [("separator", 's'), ("equal-width", 'w')] (args.take optionCount)) with
  | .error t => complainOptions "seq" 1 t
  | .ok o =>
    let numbers := o.arguments ++ args.drop optionCount
    let bad := fun (cs : Chars) => do
      complain "seq" ("invalid floating point argument: ".toList ++ quoted cs)
      return 1
    let (first, step, last) : Chars × Chars × Chars := match numbers with
      | [b] => (['1'], ['1'], b)
      | [a, b] => (a, ['1'], b)
      | a :: s :: b :: _ => (a, s, b)
      | [] => ([], [], [])
    if numbers.isEmpty then
      complain "seq" "missing operand".toList
      return 1
    let places := max (placesOf first) (placesOf step)
    let fine := max places (placesOf last)
    match decimal? fine first, decimal? fine step, decimal? fine last with
    | some a, some s, some b =>
      if s == 0 then
        complain "seq" ("invalid Zero increment value: ".toList ++ quoted step)
        return 1
      let count := if (0 < s && b < a) || (s < 0 && a < b) then 0 else ((b - a).tdiv s).toNat + 1
      let count := min count 2000000
      let texts := (List.range count).map fun (i : Nat) =>
        decimalText places ((a + s * i).tdiv (Int.pow 10 (fine - places)))
      let width := if o.has 'w' then texts.foldl (fun n t => max n t.length) 0 else 0
      let texts := texts.map fun t =>
        if t.length < width then
          let (sign, body) := if t.head? == some '-' then (['-'], t.drop 1) else (([] : Chars), t)
          sign ++ List.replicate (width - t.length) '0' ++ body
        else t
      let separator := (o.value? 's').getD ['\n']
      if !texts.isEmpty then Act.write 1 (joinWith separator texts ++ ['\n'])
      return 0
    | none, _, _ => bad first
    | _, none, _ => bad step
    | _, _, none => bad last

end ScriptMatrix.Sandbox.Program
