import ScriptMatrix.Sandbox.Shell.Test.Basic

/-!
# `ScriptMatrix.Sandbox.Shell.Test.Counted`: arguments by their number

What the extended dialect makes of the arguments of `test` depends first of
all on how many there are: up to four have a fixed meaning, so that texts
that look like operators can be asked about; more are read as an
expression.
-/

set_option autoImplicit false

namespace ScriptMatrix.Sandbox.Shell.Act

mutual

/-- Reads questions of which one has to be answered by yes. -/
def testAny : Nat → List Chars → Question (Bool × List Chars)
  | 0, _ => throw ⟨"too many arguments".toList⟩
  | fuel + 1, ts => do
    let (a, rest) ← testAll fuel ts
    match rest with
    | ['-', 'o'] :: more =>
      let (b, rest) ← testAny fuel more
      return (a || b, rest)
    | _ => return (a, rest)

/-- Reads questions that all have to be answered by yes. -/
def testAll : Nat → List Chars → Question (Bool × List Chars)
  | 0, _ => throw ⟨"too many arguments".toList⟩
  | fuel + 1, ts => do
    let (a, rest) ← testTerm fuel ts
    match rest with
    | ['-', 'a'] :: more =>
      let (b, rest) ← testAll fuel more
      return (a && b, rest)
    | _ => return (a, rest)

/-- Reads a single question. -/
def testTerm : Nat → List Chars → Question (Bool × List Chars)
  | 0, _ => throw ⟨"too many arguments".toList⟩
  | fuel + 1, ts => do
    match ts with
    | [] => throw ⟨"argument expected".toList⟩
    | ['!'] :: rest =>
      let (a, rest) ← testTerm fuel rest
      return (!a, rest)
    | a :: op :: b :: rest =>
      if a == ['('] then
        let (x, after) ← testAny fuel (op :: b :: rest)
        match after with
        | [')'] :: more => return (x, more)
        | _ => throw ⟨[Char.ofNat 96] ++ ")' expected".toList⟩
      else if (testOperators .extended).contains (String.ofList op) then
        return (← testBinary (String.ofList op) a b, rest)
      else if isTestUnary .extended a then return (← testUnary a op, b :: rest)
      else return (!a.isEmpty, op :: b :: rest)
    | [a, b] =>
      if isTestUnary .extended a then return (← testUnary a b, []) else return (!a.isEmpty, [b])
    | [a] => return (!a.isEmpty, [])

end

/-- The answer to an expression, all of which has to be read. -/
def testExpression (ts : List Chars) : Question Bool := do
  let (a, rest) ← testAny (2 * ts.length + 8) ts
  if rest.isEmpty then return a else throw ⟨"too many arguments".toList⟩

/-- The answer to two arguments. -/
def testTwo (a b : Chars) : Question Bool := do
  if a == ['!'] then return b.isEmpty
  if isTestUnary .extended a then testUnary a b
  else throw ⟨a ++ ": unary operator expected".toList⟩

/-- The answer to three arguments. -/
def testThree (a op b : Chars) : Question Bool := do
  if (testOperators .extended).contains (String.ofList op) then testBinary (String.ofList op) a b
  else if op == ['-', 'a'] then return !a.isEmpty && !b.isEmpty
  else if op == ['-', 'o'] then return !a.isEmpty || !b.isEmpty
  else if a == ['!'] then return !(← testTwo op b)
  else if a == ['('] && b == [')'] then return !op.isEmpty
  else throw ⟨op ++ ": binary operator expected".toList⟩

/-- The answer to arguments in the extended dialect. -/
def testCounted (ts : List Chars) : Question Bool := do
  match ts with
  | [] => return false
  | [a] => return !a.isEmpty
  | [a, b] => testTwo a b
  | [a, op, b] => testThree a op b
  | [a, b, c, e] =>
    if a == ['!'] then return !(← testThree b c e)
    else if a == ['('] && e == [')'] then testTwo b c
    else testExpression ts
  | _ => testExpression ts

end ScriptMatrix.Sandbox.Shell.Act
