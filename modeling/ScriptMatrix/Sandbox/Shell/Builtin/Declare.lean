import ScriptMatrix.Sandbox.Shell.Builtin.Basic

/-!
# `ScriptMatrix.Sandbox.Shell.Builtin.Declare`: making variables known

Variables are declared with attributes, with or without a value, for the
function that runs or for the whole script. They can be shown in the words
that declare them again, and be forgotten.
-/

set_option autoImplicit false

namespace ScriptMatrix.Sandbox.Shell.Act

/-- An operand that is a text with an equals sign is an assignment. -/
def Operand.ofText (extended : Bool) (cs : Chars) : Operand :=
  let front := cs.takeWhile (· != '=')
  if front.length == cs.length then .text cs
  else
    let value := cs.drop (front.length + 1)
    let append := extended && front.getLast? == some '+'
    let place := if append then front.dropLast else front
    let name := place.takeWhile (· != '[')
    if extended && name.length < place.length && place.getLast? == some ']' then
      .assigned name (some ((place.drop (name.length + 1)).dropLast)) append value
    else .assigned place none append value

/-- The name that an operand is about. -/
def operandName : Operand → Chars
  | .text cs => cs
  | .assigned name _ _ _ => name
  | .elements name _ _ => name

/-- The words that declare a variable. -/
def declaration (name : Chars) (v : Variable) : Chars :=
  let letters := v.attributes
  let front := "declare -".toList ++ (if letters.isEmpty then ['-'] else letters) ++ [' '] ++ name
  match v.content with
  | none => front
  | some (.text cs) => front ++ ['='] ++ quoteDouble cs
  | some (.indexed es) => front ++ ['='] ++ elementsText (es.map fun e => (digits e.1, e.2)) false
  | some (.keyed es) => front ++ ['='] ++ elementsText es true

/-- The variables with names in order. -/
def sortedVisible : Act Frame := do
  let all ← visible
  return (inOrder (all.map (·.1))).filterMap fun n => (all.lookup n).map fun v => (n, v)

/-- Attributes to set and to take away. -/
structure Attributes where
  on : Chars
  off : Chars

/-- A variable with its attributes changed. -/
def Attributes.apply (a : Attributes) (v : Variable) : Variable :=
  let on := a.on.contains
  let off := a.off.contains
  let content : Option Content :=
    if on 'A' then some (match v.content with
      | some (.keyed es) => .keyed es
      | _ => .keyed [])
    else if on 'a' then some (match v.content with
      | some (.text cs) => .indexed [(0, cs)]
      | some c => c
      | none => .indexed [])
    else v.content
  { v with
    content := content
    exported := (v.exported || on 'x') && !off 'x'
    constant := v.constant || on 'r'
    integer := (v.integer || on 'i') && !off 'i'
    reference := (v.reference || on 'n') && !off 'n'
    letters :=
      if on 'u' && on 'l' then none
      else if on 'u' then some .upper
      else if on 'l' then some .lower
      else if on 'c' then some .swapped
      else if (off 'u' && v.letters == some .upper) || (off 'l' && v.letters == some .lower)
      then none
      else v.letters }

/-- Where a declaration holds. -/
inductive Reach where
  /-- In the function that runs. -/
  | function
  /-- Where the name is known. -/
  | known
  /-- In the whole script. -/
  | script
  deriving DecidableEq

/-- Declares a variable: the status. -/
def declareOne (command : Chars) (reach : Reach) (a : Attributes) (o : Operand) : Act Nat := do
  let extended ← isExtended
  let o := match o with
    | .text cs => Operand.ofText extended cs
    | o => o
  let name := operandName o
  let front := match o with
    | .text cs => cs.takeWhile (· != '[')
    | _ => name
  if !isName front then
    match o with
    | .assigned n i _ cs =>
      let place := match i with
        | some i => n ++ ['['] ++ i ++ [']']
        | none => n
      complainName command (place ++ ['='] ++ cs)
    | _ => complainName command name
  else
    let name := front
    let p ← process
    let before ← match reach with
      | .function => local? name
      | .known => do plainLookup? (← resolve name)
      | .script => pure (p.scopes.getLast?.bind (·.frame.lookup name))
    let outer ← plainLookup? name
    let v := match before with
      | some v => v
      | none =>
        -- In the plain dialect a new variable begins with the value of the old one.
        if reach == .function && !extended then outer.getD {} else {}
    let keeps := v.constant || (reach == .function && before.isNone && outer.any (·.constant))
    let changes := match o with
      | .text _ => false
      | _ => true
    if keeps && (changes || (reach == .function && before.isNone)) then
      complainOf command (name ++
        (if extended then ": readonly variable" else ": is read only").toList)
      return 1
    let target ← if reach == .known && !a.on.contains 'n' then resolve name else pure name
    let put := fun (v : Variable) => match reach with
      | .function => storeLocal target v
      | .known => store target v
      | .script => storeOutermost target v
    let attributes : Attributes := { a with on := a.on.filter (· != 'r') }
    put (attributes.apply v)
    match o with
    | .text _ => pure ()
    | .assigned _ (some index) append cs => assignElement target index append cs
    | .assigned _ none append cs =>
      if a.on.contains 'n' then put { attributes.apply v with content := some (.text cs) }
      else assignText target append cs
    | .elements _ append es => assignElements target append (a.on.contains 'A') es
    if a.on.contains 'r' then
      let now := (← plainLookup? target).getD {}
      put { now with constant := true }
    return 0

/-- Declares variables: the status. -/
def declareAll (command : Chars) (reach : Reach) (a : Attributes) (os : List Operand) :
    Act Nat := do
  let mut status := 0
  for o in os do
    let s ← declareOne command reach a o
    if s != 0 then status := s
  return status

/-- Reads options that set attributes, or with a plus sign take them
away. -/
def readAttributes (known : Chars) : List Operand → Except Chars (Attributes × List Operand)
  | .text ['-', '-'] :: rest => .ok (⟨[], []⟩, rest)
  | .text ('-' :: c :: cs) :: rest =>
    match (c :: cs).find? (!known.contains ·) with
    | some d => .error ['-', d]
    | none =>
      (readAttributes known rest).map fun (a, os) => ({ a with on := c :: cs ++ a.on }, os)
  | .text ('+' :: c :: cs) :: rest =>
    match (c :: cs).find? (!known.contains ·) with
    | some d => .error ['+', d]
    | none =>
      (readAttributes known rest).map fun (a, os) => ({ a with off := c :: cs ++ a.off }, os)
  | os => .ok (⟨[], []⟩, os)

/-- Shows declarations of the variables that are asked for: the status. -/
def showDeclarations (command : Chars) (chosen : Variable → Bool) (os : List Operand) :
    Act Nat := do
  if os.isEmpty then
    for (name, v) in ← sortedVisible do
      if chosen v then write 1 (declaration name v ++ ['\n'])
    return 0
  let mut status := 0
  for o in os do
    let name := operandName o
    match ← plainLookup? name with
    | some v => write 1 (declaration name v ++ ['\n'])
    | none =>
      match ← ownContent? name with
      | some c => write 1 (declaration name { content := some c } ++ ['\n'])
      | none =>
        complainOf command (name ++ ": not found".toList)
        status := 1
  return status

/-- Tells whether there are functions: the status. -/
def showFunctions (namesOnly : Bool) (os : List Operand) : Act Nat := do
  let functions := (← process).functions
  if os.isEmpty then
    for name in inOrder (functions.map (·.1)) do
      write 1 ((if namesOnly then "declare -f ".toList else []) ++ name ++ ['\n'])
    return 0
  let mut status := 0
  for o in os do
    let name := operandName o
    if functions.any (·.1 == name) then
      if namesOnly then write 1 (name ++ ['\n'])
    else status := 1
  return status

/-- Declares variables with attributes, or shows them. -/
def declare (command : Chars) (os : List Operand) : Act Nat := do
  match readAttributes "aAcfFgilnprtuxI".toList os with
  | .error option =>
    complainOf command (option ++ ": invalid option".toList)
    return 2
  | .ok (a, os) =>
    if a.on.contains 'f' || a.on.contains 'F' then return ← showFunctions (a.on.contains 'F') os
    let plain : Attributes := ⟨a.on.filter (! ['g', 'p', 't', 'I'].contains ·), a.off⟩
    if a.on.contains 'p' || os.isEmpty then
      let fits := fun (v : Variable) => plain.on.all (v.attributes.contains ·)
      return ← showDeclarations command fits os
    let inFunction := !(← process).calls.isEmpty
    let reach := if a.on.contains 'g' then Reach.script
      else if inFunction then .function else .known
    declareAll command reach plain os

/-- Declares variables of the function that runs. -/
def local_ (os : List Operand) : Act Nat := do
  let command := "local".toList
  if (← process).calls.isEmpty then
    if ← isExtended then
      complainOf command "can only be used in a function".toList
      return 1
    else
      complainOf command "not in a function".toList
      giveUp
  match if ← isExtended then readAttributes "aAcfFgilnprtuxI".toList os else .ok (⟨[], []⟩, os) with
  | .error option =>
    complainOf command (option ++ ": invalid option".toList)
    return 2
  | .ok (a, os) =>
    let a : Attributes := ⟨a.on.filter (! ['g', 'p', 't', 'I'].contains ·), a.off⟩
    if os.any (operandName · == ['-']) then return 0
    let status ← declareAll command .function a os
    if status != 0 then refuse status else return status

/-- Shows variables in the words of a command. -/
def showWith (command : Chars) (chosen : Variable → Bool) : Act Unit := do
  let extended ← isExtended
  for (name, v) in ← sortedVisible do
    if chosen v then
      if extended then write 1 (declaration name v ++ ['\n'])
      else
        let value := match v.value? with
          | some cs => '=' :: quoteSingle cs
          | none => []
        write 1 (command ++ [' '] ++ name ++ value ++ ['\n'])

/-- Makes variables known to programs. -/
def export_ (os : List Operand) : Act Nat := do
  let command := "export".toList
  let extended ← isExtended
  match readAttributes (if extended then "fnp" else "p").toList os with
  | .error option => refuse (← complainOptions command (.unknown option))
  | .ok (a, os) =>
    if a.on.contains 'f' then return 0
    if os.isEmpty || (!extended && a.on.contains 'p') then
      showWith command (·.exported)
      return 0
    let change : Attributes := if a.on.contains 'n' then ⟨[], ['x']⟩ else ⟨['x'], []⟩
    let status ← declareAll command .known change os
    if status != 0 then refuse status else return 0

/-- Makes variables keep their values. -/
def readonly_ (os : List Operand) : Act Nat := do
  let command := "readonly".toList
  let extended ← isExtended
  match readAttributes (if extended then "aAfp" else "p").toList os with
  | .error option => refuse (← complainOptions command (.unknown option))
  | .ok (a, os) =>
    if a.on.contains 'f' then return 0
    if os.isEmpty || (!extended && a.on.contains 'p') then
      showWith command (·.constant)
      return 0
    let change : Attributes := ⟨'r' :: a.on.filter (· != 'p'), []⟩
    let status ← declareAll command .known change os
    if status != 0 then refuse status else return 0

/-- Forgets an element of an array. -/
def forgetElement (name index : Chars) : Act Nat := do
  let name ← resolve name
  match ← plainLookup? name with
  | none => return 0
  | some v =>
    if v.constant then
      complainOf "unset".toList (name ++ ": cannot unset: readonly variable".toList)
      return 1
    match v.content with
    | some (.keyed es) =>
      store name { v with content := some (.keyed (es.filter (·.1 != index))) }
      return 0
    | some (.indexed es) =>
      if index == ['@'] || index == ['*'] then
        forget name
        return 0
      match (Content.indexed es).indexOf? (← evaluate index) with
      | some n =>
        store name { v with content := some (.indexed (es.filter (·.1 != n))) }
        return 0
      | none =>
        complainOf "unset".toList (['['] ++ index ++ "]: bad array subscript".toList)
        return 1
    | _ =>
      if (← evaluate index) == 0 then forget name
      return 0

/-- Forgets variables and functions. -/
def unset (args : List Chars) : Act Nat := do
  let command := "unset".toList
  match Options.read "fvn" "" args with
  | .error e => refuse (← complainOptions command e)
  | .ok o =>
    let extended ← isExtended
    if o.has 'f' && o.has 'v' && extended then
      complainOf command "cannot simultaneously unset a function and a variable".toList
      return 1
    let mut status := 0
    for name in o.arguments do
      let forgetFunction := alter fun p =>
        { p with functions := p.functions.filter (·.1 != name) }
      let front := name.takeWhile (· != '[')
      if o.has 'f' then forgetFunction
      else if extended && front.length < name.length && isName front then
        let s ← forgetElement front ((name.drop (front.length + 1)).dropLast)
        if s != 0 then status := s
      else if !isName name then
        if !extended then
          complainOf command (name ++ ": bad variable name".toList)
          status ← refuse 1
        else if o.has 'v' then status ← complainName command name
        else forgetFunction
      else
        let target ← if o.has 'n' then pure name else resolve name
        match ← plainLookup? target with
        | some v =>
          if v.constant then
            if extended then
              complainOf command (name ++ ": cannot unset: readonly variable".toList)
            else complainOf command (name ++ ": is read only".toList)
            status ← refuse 1
          else forget target
        | none => if !o.has 'v' && extended then forgetFunction
    return status

end ScriptMatrix.Sandbox.Shell.Act
