import ScriptMatrix.Regex.Escape

/-!
# `ScriptMatrix.Regex.Brackets`: classes in brackets

Between brackets stand characters, ranges, escapes, named ASCII classes
and further classes in brackets. `&&`, `--` and `~~` combine what stands
on either side, from left to right. A `]` in front closes nothing, and
hyphens in front or before the closing bracket are characters.
-/

set_option autoImplicit false

namespace ScriptMatrix.Regex

/-- The named ASCII classes with their ranges. -/
def asciiClasses : List (String × List (Nat × Nat)) := [
  ("alnum", [(48, 57), (65, 90), (97, 122)]),
  ("alpha", [(65, 90), (97, 122)]),
  ("ascii", [(0, 127)]),
  ("blank", [(9, 9), (32, 32)]),
  ("cntrl", [(0, 31), (127, 127)]),
  ("digit", [(48, 57)]),
  ("graph", [(33, 126)]),
  ("lower", [(97, 122)]),
  ("print", [(32, 126)]),
  ("punct", [(33, 47), (58, 64), (91, 96), (123, 126)]),
  ("space", [(9, 13), (32, 32)]),
  ("upper", [(65, 90)]),
  ("word", [(48, 57), (65, 90), (95, 95), (97, 122)]),
  ("xdigit", [(48, 57), (65, 70), (97, 102)])]

namespace Parse

/-- Reads a named ASCII class in its own brackets, such as `[:alpha:]`.
If there is none, nothing is read. -/
def asciiClass? : Parse (Option ClassSet) := do
  let s ← get
  let body := s.rest.drop 1
  match body with
  | ':' :: '^' :: rest => named s true rest
  | ':' :: rest => named s false rest
  | _ => return none
where
  /-- Reads the name and the end of a named class. -/
  named (s : Scan) (negated : Bool) (rest : List Char) : Parse (Option ClassSet) := do
    let name := String.ofList (rest.takeWhile (· != ':'))
    match rest.dropWhile (· != ':') with
    | ':' :: ']' :: after =>
      if (asciiClasses.lookup name).isSome then
        set { s with rest := after }
        return some (.ascii name negated)
      else return none
    | _ => return none

/-- Reads a character or an escape inside brackets. -/
def bracketItem : Parse Pattern := do
  let c ← char .unclosedClass
  if c == '\\' then escape
  else
    bump
    return .letter ⟨c, false⟩

/-- An item that may stand in brackets by itself. -/
def itemSet : Pattern → Parse ClassSet
  | .letter l => return .letter l
  | .shorthand kind negated => return .shorthand kind negated
  | .property name negated => return .property name negated
  | _ => throw .badClassEscape

/-- An item that a range may begin or end with. -/
def itemLetter : Pattern → Parse Letter
  | .letter l => return l
  | _ => throw .badClassRange

/-- Reads an item or a range. -/
def bracketRange : Parse ClassSet := do
  let first ← bracketItem
  space
  let c ← char .unclosedClass
  let second ← peekSecond
  if c != '-' || second == some ']' || second == some '-' then itemSet first
  else
    let _ ← nextChar .unclosedClass
    let last ← bracketItem
    let lo ← itemLetter first
    let hi ← itemLetter last
    if hi.char < lo.char then throw .badClassRange
    return .range lo hi

/-- Takes hyphens that stand in front. -/
def leadingHyphens : Nat → Parse (List ClassSet)
  | 0 => return []
  | fuel + 1 => do
    if (← char .unclosedClass) == '-' then
      let _ ← nextChar .unclosedClass
      return .letter ⟨'-', false⟩ :: (← leadingHyphens fuel)
    else return []

/-- Reads the opening bracket and what has a meaning of its own behind it:
whether the class is negated, and the items read so far. -/
def openBracket : Parse (Bool × List ClassSet) := do
  let c ← nextChar .unclosedClass
  let negated := c == '^'
  if negated then
    let _ ← nextChar .unclosedClass
  let hyphens ← leadingHyphens (← get).rest.length
  if hyphens.isEmpty && (← char .unclosedClass) == ']' then
    let _ ← nextChar .unclosedClass
    return (negated, [.letter ⟨']', false⟩])
  return (negated, hyphens)

/-- The operation whose mark comes next. -/
def setOperation? : Parse (Option SetOperation) := do
  if ← looksAt "&&" then return some .intersection
  if ← looksAt "--" then return some .difference
  if ← looksAt "~~" then return some .symmetricDifference
  return none

/-- What stands to the left of an operation, combined with the items
behind it. -/
def closeOperation (left : Option (SetOperation × ClassSet)) (items : List ClassSet) : ClassSet :=
  match left with
  | none => .ofItems items
  | some (op, l) => .operation op l (.ofItems items)

mutual

/-- Reads a class from its opening bracket on. -/
def brackets : Nat → Parse (Bool × ClassSet)
  | 0 => throw .tooDeep
  | fuel + 1 => do
    let (negated, items) ← openBracket
    return (negated, ← bracketItems fuel none items)

/-- Reads the items of a class up to its closing bracket. -/
def bracketItems : Nat → Option (SetOperation × ClassSet) → List ClassSet → Parse ClassSet
  | 0, _, _ => throw .tooDeep
  | fuel + 1, left, items => do
    space
    let c ← char .unclosedClass
    if c == ']' then
      bump
      return closeOperation left items
    else if c == '[' then
      match ← asciiClass? with
      | some s => bracketItems fuel left (items ++ [s])
      | none =>
        let (negated, inner) ← brackets fuel
        bracketItems fuel left (items ++ [.bracketed negated inner])
    else match ← setOperation? with
      | some op =>
        drop 2
        bracketItems fuel (some (op, closeOperation left items)) []
      | none => bracketItems fuel left (items ++ [← bracketRange])

end

end Parse

end ScriptMatrix.Regex
