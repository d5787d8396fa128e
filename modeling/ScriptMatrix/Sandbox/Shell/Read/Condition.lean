import ScriptMatrix.Sandbox.Shell.Read.Word

/-!
# `ScriptMatrix.Sandbox.Shell.Read.Condition`: conditions in double brackets

A condition asks about words: one word, one with an operator before it, or
two with an operator between them. Conditions are combined by `!`, `&&`
and `||`, the first binding tightest, and by parentheses.
-/

set_option autoImplicit false

namespace ScriptMatrix.Sandbox.Shell

/-- The operators with one operand. -/
def unaryOperators : Chars := "abcdefghknoprstuvwxzGLNORS".toList

/-- Whether a word is an operator with one operand. -/
def isUnaryOperator : Chars → Bool
  | ['-', c] => unaryOperators.contains c
  | _ => false

/-- The operators between two operands that are words. -/
def binaryOperators : List Chars :=
  ["=", "==", "!=", "=~", "-eq", "-ne", "-lt", "-le", "-gt", "-ge", "-nt", "-ot", "-ef"].map
    String.toList

namespace Read

/-- Reads a word in which groups are patterns. -/
def patternWord (commands : Read (List Command)) : Read Word := do
  let before := (← get).groups
  modify fun s => { s with groups := true }
  let w ← word commands .word
  modify fun s => { s with groups := before }
  return w

/-- Reads a word, of which there has to be something. -/
def operandWord (commands : Read (List Command)) : Read Word := do
  blanks
  if (← peekWord) == "]]".toList then unexpected
  let w ← patternWord commands
  if w.isEmpty then unexpected
  return w

/-- Reads a condition about words. -/
def primary (commands : Read (List Command)) : Read Condition := do
  let front ← peekWord
  if isUnaryOperator front then
    let s ← get
    drop front.length
    blanks
    let next ← peekWord
    if binaryOperators.contains next && next.head? != some '-' then set s
    else return .unary front (← operandWord commands)
  let left ← operandWord commands
  blanks
  let op ← peekWord
  if binaryOperators.contains op then
    drop op.length
    blanks
    if op == "=~".toList then
      let right ← word commands .regex
      if right.isEmpty then unexpected
      return .binary op left right
    else return .binary op left (← operandWord commands)
  else if ← bumpIf "<" then return .binary ['<'] left (← operandWord commands)
  else if ← bumpIf ">" then return .binary ['>'] left (← operandWord commands)
  else
    let done := op == "]]".toList || (← looksAt "&&") || (← looksAt "||") || (← looksAt ")")
    if !done then unexpected
    return .word left

mutual

/-- Reads conditions of which one has to hold. -/
def anyOf (commands : Read (List Command)) : Nat → Read Condition
  | 0 => do throw (.unfinished (← get).line none)
  | fuel + 1 => do
    let left ← allOf commands fuel
    linebreaks
    if ← bumpIf "||" then return .either left (← anyOf commands fuel) else return left

/-- Reads conditions that all have to hold. -/
def allOf (commands : Read (List Command)) : Nat → Read Condition
  | 0 => do throw (.unfinished (← get).line none)
  | fuel + 1 => do
    let left ← term commands fuel
    linebreaks
    if ← bumpIf "&&" then return .both left (← allOf commands fuel) else return left

/-- Reads a condition that is complete in itself. -/
def term (commands : Read (List Command)) : Nat → Read Condition
  | 0 => do throw (.unfinished (← get).line none)
  | fuel + 1 => do
    linebreaks
    if (← peekWord) == ['!'] then
      drop 1
      return .negated (← term commands fuel)
    else if ← bumpIf "(" then
      let c ← anyOf commands fuel
      linebreaks
      expect ")"
      return c
    else primary commands

end

/-- Reads a condition behind its opening brackets, and the closing ones. -/
def condition (commands : Read (List Command)) : Read Condition := do
  let c ← anyOf commands ((← get).rest.length + 8)
  linebreaks
  expectWord "]]"
  return c

end Read

end ScriptMatrix.Sandbox.Shell
