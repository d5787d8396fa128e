import ScriptMatrix.Sandbox.Shell.Arithmetic

/-!
# `ScriptMatrix.Sandbox.Shell.Assign`: giving variables values

What is assigned to a variable goes through its attributes: it may be
taken for a sum, or change the case of its letters. A variable that keeps
its value refuses another one.
-/

set_option autoImplicit false

namespace ScriptMatrix.Sandbox.Shell

/-- A text with its letters changed. -/
def LetterCase.apply (how : LetterCase) (cs : Chars) : Chars :=
  match how with
  | .upper => cs.map toUpper
  | .lower => cs.map toLower
  | .swapped => cs.map fun c => if toUpper c == c then toLower c else toUpper c

namespace Act

/-- Complains about a variable that keeps its value. -/
def complainConstant (name : Chars) : Act Unit := do
  if ← isExtended then complain (name ++ ": readonly variable".toList)
  else complain (name ++ ": is read only".toList)

/-- What an assignment makes of a text, given the attributes and what was
there before. -/
def shaped (v : Variable) (append : Bool) (before : Option Chars) (cs : Chars) : Act Chars := do
  if v.integer then
    let new ← evaluate cs
    if append then
      let old ← evaluate (before.getD [])
      return signedDigits (Sum.wrap (old + new))
    return signedDigits new
  let whole := if append then before.getD [] ++ cs else cs
  return match v.letters with
    | some how => how.apply whole
    | none => whole

/-- Brings about what else an assignment does. -/
def afterAssign (name cs : Chars) : Act Unit := do
  if name == "OPTIND".toList then alter fun p => { p with optionPlace := 0 }
  if name == "RANDOM".toList then
    alterSystem fun s => { s with seed := ((integer? cs).getD 0).natAbs }

/-- Gives a variable a text, through its attributes. -/
def assignText (name : Chars) (append : Bool) (cs : Chars) : Act Unit := do
  let v₀ ← plainLookup? name
  let isNaming := (v₀.map fun v => v.reference && v.value?.isNone).getD false
  let name ← if isNaming then pure name else resolve name
  let v := (← plainLookup? name).getD {}
  if v.constant then
    complainConstant name
    giveUp
  let text ← shaped v append v.value? cs
  let all ← isOn "allexport"
  store name { v.withText text with exported := v.exported || all }
  afterAssign name text

/-- Gives an element a text. -/
def assignElement (name index : Chars) (append : Bool) (cs : Chars) : Act Unit := do
  let name ← resolve name
  let v := (← plainLookup? name).getD {}
  if v.constant then
    complainConstant name
    giveUp
  if v.isKeyed then
    let before := match v.content with
      | some (.keyed es) => es.lookup index
      | _ => none
    store name (v.withKeyed index (← shaped v append before cs))
  else
    let i ← evaluate index
    let c := v.content.getD (.indexed [])
    match c.indexOf? i with
    | none =>
      complain (name ++ ['['] ++ index ++ "]: bad array subscript".toList)
      giveUp
    | some n => store name (v.withNumbered n (← shaped v append (c.numbered? n) cs))

/-- An element of an array to be, with an index of its own or without. -/
abbrev NewElement := Option (Chars × Bool) × Chars

/-- Makes a variable an array with the given elements; those that are there
stay if they are added to. -/
def assignElements (name : Chars) (append keyed : Bool) (es : List NewElement) : Act Unit := do
  let name ← resolve name
  let v := (← plainLookup? name).getD {}
  if v.constant then
    complainConstant name
    giveUp
  let keyed := keyed || v.isKeyed
  let start : Content :=
    if append then
      match v.content with
      | some c => if keyed then c else .indexed c.toIndexed
      | none => if keyed then .keyed [] else .indexed []
    else if keyed then .keyed [] else .indexed []
  store name { v with content := some start }
  if keyed then
    -- Without any index, keys and values take turns.
    let bare := es.all (·.1.isNone)
    let rec pairs : List NewElement → List NewElement
      | (none, k) :: (none, w) :: rest => (some (k, false), w) :: pairs rest
      | [(none, k)] => [(some (k, false), [])]
      | e :: rest => e :: pairs rest
      | [] => []
    for (i, cs) in (if bare then pairs es else es) do
      match i with
      | some (key, more) => assignElement name key more cs
      | none => complain (name ++ ": ".toList ++ cs ++
          ": must use subscript when assigning associative array".toList)
  else
    let mut next := start.nextIndex
    for (i, cs) in es do
      match i with
      | some (index, more) =>
        let n ← evaluate index
        let c := ((← plainLookup? name).bind (·.content)).getD (.indexed [])
        match c.indexOf? n with
        | some k =>
          assignElement name (digits k) more cs
          next := k + 1
        | none =>
          complain (name ++ ['['] ++ index ++ "]: bad array subscript".toList)
          giveUp
      | none =>
        assignElement name (digits next) false cs
        next := next + 1
  if ← isOn "allexport" then
    match ← plainLookup? name with
    | some v => store name { v with exported := true }
    | none => return ()

end Act

end ScriptMatrix.Sandbox.Shell
