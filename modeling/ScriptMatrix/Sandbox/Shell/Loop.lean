import ScriptMatrix.Sandbox.Shell.Simple

/-!
# `ScriptMatrix.Sandbox.Shell.Loop`: loops

A loop carries out its body round by round. Its status is that of the last
command of its last round, or zero if there was none.
-/

set_option autoImplicit false

namespace ScriptMatrix.Sandbox.Shell.Act

/-- How a part of a round ends. -/
inductive Round where
  | done
  /-- The next round comes. -/
  | next
  /-- No round comes any more. -/
  | last
  deriving DecidableEq

/-- Carries out a part of a round. -/
def part (step : Act Unit) : Act Round := do
  match ← attempt step with
  | .ok _ => return .done
  | .error (.broken n) => if n ≤ 1 then return .last else throw (.broken (n - 1))
  | .error (.continued n) => if n ≤ 1 then return .next else throw (.continued (n - 1))
  | .error h => throw h

/-- Carries out a step inside of one more loop. -/
def inLoop (step : Act Unit) : Act Unit := do
  let before := (← process).loops
  alter fun p => { p with loops := before + 1 }
  thenAlways step (alter fun p => { p with loops := before })

/-- Repeats commands while, or until, others end with success. -/
def loop (k : Again) (isUntil : Bool) (condition body : List Command) : Act Unit :=
  inLoop (repeating (fun (before : Nat) => do
    match ← part (guarding (k.commands condition)) with
    | .last => return none
    | .next => return some before
    | .done =>
      if ((← process).status == 0) == isUntil then
        status before
        return none
      match ← part (k.commands body) with
      | .last => return none
      | _ => return some (← process).status) 0)

/-- Carries out commands for each text, which a variable gets. -/
def each (k : Again) (line : Nat) (name : Chars) (words : Option (List Word))
    (body : List Command) : Act Unit := do
  alter fun p => { p with line := line, taken := none }
  if !isName name then
    complain ([Char.ofNat 96] ++ name ++ "': not a valid identifier".toList)
    status 1
    settle k
  else
    let texts ← match words with
      | some ws => expandWords k.runner ws
      | none => do pure (← process).arguments
    if texts.isEmpty then status 0
    inLoop (repeating (fun (rest : List Chars) => do
      match rest with
      | [] => return none
      | cs :: rest =>
        alter fun p => { p with line := line }
        if ← isExtended then
          runEvent k "DEBUG" "functrace"
          if ← isOn "xtrace" then trace ("for".toList :: name :: "in".toList :: texts)
        match ← attempt (assignText name false cs) with
        | .error (.abandoned whole) =>
          if !(← isExtended) then throw (.abandoned whole)
          status 1
          return none
        | r =>
          ofResult r
          match ← part (k.commands body) with
          | .last => return none
          | _ => return some rest) texts)

/-- The value of a sum, with one for when there is nothing to sum up; none,
if it makes no sense. -/
def sumValue? (r : Runner) (empty : Int) (w : Word) : Act (Option Int) := do
  let text ← expandQuoted r w
  if text.all isSpace then return some empty
  match ← attempt (evaluate text) with
  | .ok i => return some i
  | .error (.abandoned _) =>
    status 1
    return none
  | .error h => throw h

/-- Repeats commands while a sum is not zero; other sums come before the
first round and after each. -/
def count (k : Again) (line : Nat) (start condition next : Word) (body : List Command) :
    Act Unit := do
  alter fun p => { p with line := line, taken := none }
  if (← sumValue? k.runner 1 start).isNone then settle k
  else
    inLoop (repeating (fun (before : Nat) => do
      alter fun p => { p with line := line }
      match ← sumValue? k.runner 1 condition with
      | none => return none
      | some 0 =>
        status before
        return none
      | some _ =>
        match ← part (k.commands body) with
        | .last => return none
        | _ =>
          let now := (← process).status
          match ← sumValue? k.runner 1 next with
          | none => return none
          | some _ => return some now) 0)

/-- Shows numbered texts to choose from. -/
def showMenu (texts : List Chars) : Act Unit := do
  let width := (digits texts.length).length
  for (i, cs) in (List.range texts.length).zip texts do
    let number := digits (i + 1)
    write 2 (List.replicate (width - number.length) ' ' ++ number ++ [')', ' '] ++ cs ++ ['\n'])

/-- Asks again and again which text is meant, and carries out commands for
the answer. -/
def menu (k : Again) (line : Nat) (name : Chars) (words : Option (List Word))
    (body : List Command) : Act Unit := do
  alter fun p => { p with line := line, taken := none }
  let texts ← match words with
    | some ws => expandWords k.runner ws
    | none => do pure (← process).arguments
  if texts.isEmpty then status 0
  else
    showMenu texts
    inLoop (repeating (fun (_ : Unit) => do
      write 2 ((← text? "PS3".toList).getD ['#', '?', ' '])
      let (line, ended) ← readLine 0 '\n' false false 1000000 none
      if !ended && line.isEmpty then
        write 1 ['\n']
        status 1
        return none
      let reply := line.map (·.1)
      if reply.all isGap then
        showMenu texts
        return some ()
      assignText "REPLY".toList false reply
      let chosen := match natural? ((reply.dropWhile isGap).reverse.dropWhile isGap).reverse with
        | some (n + 1) => (texts[n]?).getD []
        | _ => []
      assignText name false chosen
      match ← part (k.commands body) with
      | .last => return none
      | _ => return some ()) ())

end ScriptMatrix.Sandbox.Shell.Act
