import ScriptMatrix.Sandbox.Shell.Test.Basic

/-!
# `ScriptMatrix.Sandbox.Shell.Test.Marked`: arguments by what they look like

The plain dialect reads the arguments of `test` one by one. Each is marked
as an operator or an operand, by its looks and by what follows it, and the
marks say how the question goes on. An expression that is missing counts
as no.
-/

set_option autoImplicit false

namespace ScriptMatrix.Sandbox.Shell

/-- What an argument of `test` is. -/
inductive TestMark where
  | ending
  | operand
  | unary
  | binary
  | negation
  | conjunction
  | disjunction
  | opening
  | closing
  deriving Repr, DecidableEq

namespace TestMark

/-- What an argument looks like. -/
def ofText (cs : Chars) : TestMark :=
  if cs == ['!'] then .negation
  else if cs == ['('] then .opening
  else if cs == [')'] then .closing
  else if cs == ['-', 'a'] then .conjunction
  else if cs == ['-', 'o'] then .disjunction
  else if (Act.testOperators .plain).contains (String.ofList cs) then .binary
  else if Act.isTestUnary .plain cs then .unary
  else .operand

/-- Whether an operator in front of other arguments is none, but an operand
itself. -/
def standsAlone : List Chars → Bool
  | [] => true
  | [_] => false
  | next :: _ => ofText next == .binary

/-- What the first argument is, given those behind it. -/
def ofArguments : List Chars → TestMark
  | [] => .ending
  | cs :: rest =>
    match ofText cs with
    | .unary => if standsAlone rest then .operand else .unary
    | .opening => if rest.isEmpty then .operand else .opening
    | mark => mark

end TestMark

namespace Act

/-- The answer so far, and the arguments from the last one on that it took
into account. -/
abbrev Answered := Question (Bool × List Chars)

mutual

/-- Reads questions of which one has to be answered by yes. -/
def markedAny : Nat → Bool → TestMark → List Chars → Answered
  | 0, _, _, _ => throw ⟨"too many arguments".toList⟩
  | fuel + 1, before, mark, ts => do
    let (a, ts) ← markedAll fuel true mark ts
    match TestMark.ofArguments (ts.drop 1) with
    | .disjunction => markedAny fuel (before || a) (TestMark.ofArguments (ts.drop 2)) (ts.drop 2)
    | _ => return (before || a, ts)

/-- Reads questions that all have to be answered by yes. -/
def markedAll : Nat → Bool → TestMark → List Chars → Answered
  | 0, _, _, _ => throw ⟨"too many arguments".toList⟩
  | fuel + 1, before, mark, ts => do
    let (a, ts) ← markedNot fuel mark ts
    match TestMark.ofArguments (ts.drop 1) with
    | .conjunction => markedAll fuel (before && a) (TestMark.ofArguments (ts.drop 2)) (ts.drop 2)
    | _ => return (before && a, ts)

/-- Reads a question that may be turned around. -/
def markedNot : Nat → TestMark → List Chars → Answered
  | 0, _, _ => throw ⟨"too many arguments".toList⟩
  | fuel + 1, mark, ts => do
    match mark with
    | .negation =>
      let next := TestMark.ofArguments (ts.drop 1)
      let (a, ts) ← markedNot fuel next (if next == .ending then ts else ts.drop 1)
      return (!a, ts)
    | _ => markedOne fuel mark ts

/-- Reads a single question. -/
def markedOne : Nat → TestMark → List Chars → Answered
  | 0, _, _ => throw ⟨"too many arguments".toList⟩
  | fuel + 1, mark, ts => do
    match mark, ts with
    | .ending, _ => return (false, ts)
    | .opening, _ :: rest =>
      match TestMark.ofArguments rest with
      | .closing => return (false, rest)
      | next =>
        let (a, ts) ← markedAny fuel false next rest
        match TestMark.ofArguments (ts.drop 1) with
        | .closing => return (a, ts.drop 1)
        | _ => throw ⟨"closing paren expected".toList⟩
    | .unary, op :: rest =>
      match rest with
      | [] => throw ⟨op ++ ": argument expected".toList⟩
      | a :: _ => return (← testUnary op a, rest)
    | _, a :: rest =>
      match TestMark.ofArguments rest with
      | .binary =>
        let op := rest.headD []
        match rest.drop 1 with
        | [] => throw ⟨op ++ ": argument expected".toList⟩
        | b :: more => return (← testBinary (String.ofList op) a b, b :: more)
      | _ => return (!a.isEmpty, ts)
    | _, [] => return (false, ts)

end

/-- The answer to arguments, the first of which has a mark; all of them
have to be read. -/
def markedAnswer (mark : TestMark) (ts : List Chars) : Question Bool := do
  match ← markedAny (4 * ts.length + 8) false mark ts with
  | (_, a :: _ :: _) => throw ⟨a ++ ": unexpected operator".toList⟩
  | (answer, _) => return answer

/-- The answer to arguments in the plain dialect. Three or four of them may
stand between parentheses or be turned around, unless there is an operator
in the middle. -/
def testMarked : Nat → Bool → List Chars → Question Bool
  | 0, _, _ => return false
  | fuel + 1, turned, ts => do
    let finish := fun (mark : TestMark) (ts : List Chars) => do
      return (← markedAnswer mark ts) != turned
    if ts.isEmpty then return turned
    let isBinary := ts.length == 3 && TestMark.ofText (ts.getD 1 []) == .binary
    if isBinary then finish .operand ts
    else if ts.length == 3 || ts.length == 4 then
      if ts.head? == some ['('] && ts.getLast? == some [')'] then
        let inner := (ts.drop 1).dropLast
        finish (TestMark.ofArguments inner) inner
      else if ts.head? == some ['!'] then testMarked fuel true (ts.drop 1)
      else finish (TestMark.ofArguments ts) ts
    else finish (TestMark.ofArguments ts) ts

end Act

end ScriptMatrix.Sandbox.Shell
