import ScriptMatrix.Sandbox.Shell.Expansion
import ScriptMatrix.Sandbox.Shell.Read.Condition

/-!
# `ScriptMatrix.Sandbox.Shell.Test.Basic`: questions about texts and files

A question has an operator and one or two operands: texts, numbers or
paths. How questions are put together is a matter of the dialect.
-/

set_option autoImplicit false

namespace ScriptMatrix.Sandbox.Shell

/-- Why a question cannot be answered. -/
structure TestError where
  message : Chars

namespace Act

/-- What is at a path, if anything is. The streams of the shell have paths
as well. -/
def entry? (cs : Chars) : Act (Option Entry) := do
  let streamOf : Chars → Option Nat := fun cs =>
    if cs == "/dev/stdin".toList then some 0
    else if cs == "/dev/stdout".toList then some 1
    else if cs == "/dev/stderr".toList then some 2
    else if "/dev/fd/".toList.isPrefixOf cs then natural? (cs.drop 8)
    else none
  match streamOf cs with
  | some n => return if (← openNumber? n).isSome then some .void else none
  | none => return (← tree).find? (pathOf cs)

/-- The place that a path leads to. -/
def place? (cs : Chars) : Act (Option Location) := do
  match (← tree).walk (pathOf cs) with
  | .ok place => return some place
  | .error _ => return none

/-- The answer to a question about one operand. -/
def answerUnary (op : Char) (cs : Chars) : Act Bool := do
  match op with
  | 'n' => return !cs.isEmpty
  | 'z' => return cs.isEmpty
  | 'e' | 'a' => return (← entry? cs).isSome
  | 'f' => return match ← entry? cs with
    | some (.file _) => true
    | _ => false
  | 'd' => return (← entry? cs) == some .directory
  | 's' => return match ← entry? cs with
    | some (.file b) => !b.isEmpty
    | some .directory => true
    | _ => false
  | 'c' => return (← entry? cs) == some .void
  | 'r' | 'w' | 'O' | 'G' | 'N' => return (← entry? cs).isSome
  | 'x' =>
    match ← entry? cs, ← place? cs with
    | some .directory, _ => return true
    | some (.file _), some place => return (← system).executables.contains place
    | _, _ => return false
  | 't' => return false
  | 'o' => return (← process).options.contains (String.ofList cs)
  | 'v' =>
    let front := cs.takeWhile (· != '[')
    let inside := (cs.drop (front.length + 1)).dropLast
    if front.length == cs.length then
      match ← content? cs with
      | some c => return c.value?.isSome
      | none =>
        match ← sign? cs with
        | some v => return !v.lacks false && !cs.isEmpty
        | none => return false
    else if inside == ['@'] || inside == ['*'] then
      return ((← content? front).map fun c => !c.elements.isEmpty).getD false
    else
      match ← values front (some (.ok inside)) with
      | .one _ => return true
      | _ => return false
  | 'R' =>
    return ((← plainLookup? cs).map fun v => v.reference && v.value?.isSome).getD false
  | _ => return false

/-- Compares numbers by the name of an operator. -/
def compares (op : String) (a b : Int) : Bool :=
  match op with
  | "-eq" => a == b
  | "-ne" => a != b
  | "-lt" => a < b
  | "-le" => a ≤ b
  | "-gt" => b < a
  | "-ge" => b ≤ a
  | _ => false

/-- The operators that compare numbers. -/
def comparisons : List String := ["-eq", "-ne", "-lt", "-le", "-gt", "-ge"]

/-- The answer to a question about two files. -/
def answerFiles (op : String) (a b : Chars) : Act Bool := do
  let x ← place? a
  let y ← place? b
  match op with
  | "-nt" => return x.isSome && y.isNone && (← isExtended)
  | "-ot" => return x.isNone && y.isSome && (← isExtended)
  | _ => return x.isSome && x == y

/-! ### The command -/

/-- The operators between two operands of `test`. -/
def testOperators (d : Dialect) : List String :=
  ["=", "!=", "<", ">", "-nt", "-ot", "-ef"] ++ comparisons ++
    (if d == .extended then ["=="] else [])

/-- The letters of the operators with one operand of `test`. -/
def testLetters (d : Dialect) : Chars :=
  match d with
  | .extended => unaryOperators
  | .plain => "bcdefghknprstuwxzLOGS".toList

/-- A step of `test`. -/
abbrev Question := ExceptT TestError Act

/-- The number that an operand of `test` writes. -/
def testNumber (cs : Chars) : Question Int := do
  let d := (← (process : Act _)).dialect
  match integer? cs with
  | some i =>
    if -9223372036854775808 ≤ i && i ≤ 9223372036854775807 then return i else refused d
  | none => refused d
where
  refused (d : Dialect) : Question Int := do
    match d with
    | .extended => throw ⟨cs ++ ": integer expression expected".toList⟩
    | .plain => throw ⟨"Illegal number: ".toList ++ cs⟩

/-- The answer to a question with an operator between two operands. -/
def testBinary (op : String) (a b : Chars) : Question Bool := do
  match op with
  | "=" | "==" => return a == b
  | "!=" => return a != b
  | "<" => return comesBefore a b
  | ">" => return comesBefore b a
  | "-nt" | "-ot" | "-ef" => (answerFiles op a b : Act _)
  | _ =>
    let i ← testNumber a
    let j ← testNumber b
    return compares op i j

/-- Whether a text is an operator with one operand. -/
def isTestUnary (d : Dialect) : Chars → Bool
  | ['-', c] => (testLetters d).contains c
  | _ => false

/-- The answer to a question with an operator in front of an operand. -/
def testUnary (op a : Chars) : Question Bool := do
  match op with
  | ['-', 't'] =>
    if !(← (isExtended : Act _)) then
      let _ ← testNumber a
    return false
  | [_, c] => (answerUnary c a : Act _)
  | _ => return false

end Act

end ScriptMatrix.Sandbox.Shell
