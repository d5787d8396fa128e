import ScriptMatrix.Sandbox.Shell.Brace
import ScriptMatrix.Sandbox.Shell.Field

/-!
# `ScriptMatrix.Sandbox.Shell.Expansion`: what words stand for

A word stands for a list of texts: its braces are multiplied out, its
parameters, commands and sums give way to their values, the values are
split into fields, and fields that are patterns become names of files.
Where one text is wanted, values are not split. How commands are carried
out for their output is a parameter here.
-/

set_option autoImplicit false

namespace ScriptMatrix.Sandbox.Shell

/-- How commands in words are carried out. -/
structure Runner where
  /-- What commands write to their output. -/
  output : List Command → Act Chars
  /-- What a script writes to its output. -/
  outputOf : Chars → Act Chars
  /-- The path of a file that holds what commands write, or whose content
  they read later on. -/
  channel : Bool → List Command → Act Chars

/-- Whether a piece stands for a list that may be empty. -/
def Piece.isList : Piece → Bool
  | .parameter _ name index _ use =>
    let isList := name == ['@'] || (match index with
      | .all false => true
      | _ => false)
    match use with
    | .size | .remedy .. => false
    | .keys star | .names star => !star
    | _ => isList
  | _ => false

namespace Act

/-- The separators that are in force. -/
def separatorText : Act Chars :=
  return (← text? "IFS".toList).getD [' ', '\t', '\n']

/-- Where a person's files are. -/
def homeText : Act Chars := return (← text? "HOME".toList).getD "/root".toList

/-- The directory that a tilde and what follows it stand for. -/
def tilde? (user : Chars) : Act (Option Chars) := do
  match user with
  | [] => return some (← homeText)
  | ['+'] => if ← isExtended then text? "PWD".toList else return none
  | ['-'] => if ← isExtended then text? "OLDPWD".toList else return none
  | _ => return if user == "root".toList then some "/root".toList else none

/-- A word with the tilde at its front replaced; what follows the tilde
must not be quoted, and ends at a slash, or at a colon in a list of
paths. -/
def expandTilde (isList : Bool) (w : Word) : Act Word := do
  match w with
  | .plain ('~' :: cs) :: rest =>
    let user := cs.takeWhile fun c => c != '/' && !(isList && c == ':')
    if user.length == cs.length && !rest.isEmpty then return w
    match ← tilde? user with
    | some home => return .quoted home :: .plain (cs.drop user.length) :: rest
    | none => return w
  | _ => return w

/-- A word with the tildes at its front and behind its colons replaced. -/
def expandTildes (w : Word) : Act Word := do
  let first ← expandTilde true w
  let mut done : Word := []
  for p in first do
    match p with
    | .plain cs =>
      let pieces := splitOn ':' cs
      let mut isFirst := true
      for piece in pieces do
        if isFirst then done := done ++ [.plain piece]
        else
          let w ← expandTilde true [.plain piece]
          done := done ++ [.plain [':']] ++ w
        isFirst := false
    | other => done := done ++ [other]
  return done

/-- The glyphs of values. Between quotes a list is one text with `star`,
and else fields; without quotes it is taken apart again. -/
def valueGlyphs (quoted inFields : Bool) (v : Values) : Act (List Glyph) := do
  let ifs ← separatorText
  let first : Chars := ifs.take 1
  match v with
  | .missing => return []
  | .one cs => return Glyph.ofValue quoted cs
  | .many star ts =>
    let extended ← isExtended
    if star && (quoted || !inFields) then return Glyph.ofValue quoted (joinWith first ts)
    else if quoted && inFields then
      return ((ts.map fun t => .mark :: Glyph.ofValue true t).intersperse [.gap]).flatten
    else if !inFields then
      return Glyph.ofValue quoted (joinWith (if extended then [' '] else first) ts)
    else
      let between : List Glyph := match first with
        | c :: _ => [.value c]
        | [] => [.gap]
      return ((ts.map (Glyph.ofValue false)).intersperse between).flatten

/-- Complains about braces that make no sense. -/
def refuseBraces {α : Type} (written : Chars) : Act α := do
  if ← isExtended then complain (written ++ ": bad substitution".toList)
  else complain "Bad substitution".toList
  giveUp

/-- The names of the variables that begin alike, in order. -/
def namesFrom (front : Chars) : Act (List Chars) := do
  let all ← visible
  return inOrder ((all.filter fun e => front.isPrefixOf e.1 && e.2.content.isSome).map (·.1))

/-- The name and index that a parameter leads to by its value. -/
def followName (name : Chars) (index : Option (Except Bool Chars)) :
    Act (Option (Chars × Option (Except Bool Chars))) := do
  let own ← plainLookup? name
  if index.isNone && own.any (·.reference) then
    return (own.bind Variable.value?).map fun target => ([], some (.ok target))
  let found : Option Chars := match ← values name index with
    | .one cs => some cs
    | .many _ ts => some (joinWith [' '] ts)
    | .missing => none
  match found with
  | none => return none
  | some text =>
    let front := text.takeWhile (· != '[')
    let inside := (text.drop (front.length + 1)).dropLast
    if front.length == text.length then return some (text, none)
    else if inside == ['@'] then return some (front, some (.error false))
    else if inside == ['*'] then return some (front, some (.error true))
    else return some (front, some (.ok inside))

mutual

/-- The glyphs of pieces. -/
def glyphs (r : Runner) : Nat → Bool → Bool → Word → Act (List Glyph)
  | 0, _, _, _ => throw .exhausted
  | fuel + 1, quoted, inFields, w => do
    match w with
    | [] => return []
    | p :: rest =>
      let front ← pieceGlyphs r fuel quoted inFields p
      if rest.isEmpty then return front
      return front ++ (← glyphs r fuel quoted inFields rest)

/-- The glyphs of a piece. -/
def pieceGlyphs (r : Runner) : Nat → Bool → Bool → Piece → Act (List Glyph)
  | 0, _, _, _ => throw .exhausted
  | fuel + 1, quoted, inFields, p => do
    match p with
    | .plain cs => return cs.map fun c => if quoted then .quoted c else .written c
    | .quoted cs => return .mark :: cs.map .quoted
    | .double ps =>
      let isEmpty := if ← isExtended then ps.any Piece.isList
        else !ps.isEmpty && ps.all Piece.isList
      let inner ← glyphs r fuel true inFields ps
      return if isEmpty then inner else .mark :: inner
    | .output body => return Glyph.ofValue quoted (← r.output body)
    | .outputOf script => return Glyph.ofValue quoted (← r.outputOf script)
    | .sum ps =>
      let text := Glyph.text (← glyphs r fuel true false ps)
      return Glyph.ofValue quoted (signedDigits (← evaluate text))
    | .channel reads body => return (← r.channel reads body).map .written
    | .nonsense written => refuseBraces written
    | .parameter written name index indirect use =>
      parameterGlyphs r fuel quoted inFields written name index indirect use

/-- The index of a parameter as a text; of all elements, whether they are
one text. -/
def indexText (r : Runner) : Nat → Index → Act (Option (Except Bool Chars))
  | 0, _ => throw .exhausted
  | fuel + 1, index => do
    match index with
    | .none => return none
    | .all star => return some (.error star)
    | .element w => return some (.ok (Glyph.text (← glyphs r fuel false false w)))

/-- The glyphs of a parameter. -/
def parameterGlyphs (r : Runner) :
    Nat → Bool → Bool → Chars → Chars → Index → Bool → Use → Act (List Glyph)
  | 0, _, _, _, _, _, _, _ => throw .exhausted
  | fuel + 1, quoted, inFields, written, name, index, indirect, use => do
    let i ← indexText r fuel index
    let followed ← if indirect then followName name i else pure (some (name, i))
    match followed with
    | none =>
      complain (name ++ ": invalid indirect expansion".toList)
      giveUp
    | some ([], some (.ok target)) => return Glyph.ofValue quoted target
    | some (name, i) =>
      if indirect &&
          !(isName name || name.all isDigit || specialParameters.contains (name.headD ' '))
          || name.isEmpty then
        complain (name ++ ": invalid variable name".toList)
        giveUp
      match use with
      | .names star =>
        valueGlyphs quoted inFields (.many star (← namesFrom name))
      | .keys star =>
        let ks := ((← content? name).map fun c => c.elements.map (·.1)).getD []
        valueGlyphs quoted inFields (.many star ks)
      | _ =>
        let v ← values name i
        match use with
        | .remedy way emptyToo operand =>
          remedyGlyphs r fuel quoted inFields written name i v way emptyToo operand
        | _ =>
          let isMany := match v with
            | .many .. => true
            | _ => false
          if v == .missing && !isMany && (← isOn "nounset") then
            match i with
            | some (.ok key) => refuseUnset (name ++ ['['] ++ key ++ [']'])
            | _ => refuseUnset name
          useGlyphs r fuel quoted inFields name i v use

/-- The glyphs of a parameter with an operand that comes in for it, or of
that operand. -/
def remedyGlyphs (r : Runner) : Nat → Bool → Bool → Chars → Chars → Option (Except Bool Chars) →
    Values → Remedy → Bool → Word → Act (List Glyph)
  | 0, _, _, _, _, _, _, _, _, _ => throw .exhausted
  | fuel + 1, quoted, inFields, _, name, i, v, way, emptyToo, operand => do
    let lacks := v.lacks emptyToo
    let operandGlyphs : Act (List Glyph) := do
      let w ← if quoted then pure operand else expandTilde false operand
      return (← glyphs r fuel quoted inFields w).map Glyph.loosen
    match way with
    | .alternative => if lacks then return [] else operandGlyphs
    | .fallback => if lacks then operandGlyphs else valueGlyphs quoted inFields v
    | .assigned =>
      if !lacks then valueGlyphs quoted inFields v
      else
        let w ← if quoted then pure operand else expandTilde false operand
        let text := Glyph.text (← glyphs r fuel quoted false w)
        if !isName name then
          if ← isExtended then
            complain (['$'] ++ name ++ ": cannot assign in this way".toList)
          else complain (name ++ ": bad variable name".toList)
          giveUp
        match i with
        | some (.ok key) => assignElement name key false text
        | _ => assignText name false text
        let new ← values name i
        valueGlyphs quoted inFields new
    | .demanded =>
      if !lacks then valueGlyphs quoted inFields v
      else
        let text := Glyph.text (← glyphs r fuel quoted false operand)
        let extended ← isExtended
        let message :=
          if !operand.isEmpty then text
          else if emptyToo && extended then "parameter null or not set".toList
          else if extended then "parameter not set".toList
          else if emptyToo then "parameter not set or null".toList
          else "parameter not set".toList
        complain (name ++ ": ".toList ++ message)
        giveUpShell

/-- The glyphs of what is made of values. -/
def useGlyphs (r : Runner) : Nat → Bool → Bool → Chars → Option (Except Bool Chars) → Values →
    Use → Act (List Glyph)
  | 0, _, _, _, _, _, _ => throw .exhausted
  | fuel + 1, quoted, inFields, name, i, v, use => do
    let extended ← isExtended
    let groups ← hasExtra "extglob"
    let fold ← hasExtra "nocasematch"
    let pattern := fun (w : Word) => do
      let gs ← glyphs r fuel false false (← expandTilde false w)
      let cs := Glyph.pattern gs
      return Glob.ofChars groups (if extended then cs else Glob.hideCarets cs)
    let number : Word → Act Int := fun w => do evaluate (Glyph.text (← glyphs r fuel true false w))
    match use with
    | .size =>
      let n := match v with
        | .missing => 0
        | .one cs => cs.length
        | .many _ ts => if extended then ts.length else (joinWith [' '] ts).length
      return Glyph.ofValue quoted (digits n)
    | .trimmed isFront longest w =>
      let p ← pattern w
      valueGlyphs quoted inFields (v.map fun cs =>
        if isFront then Glob.dropFront p longest cs else Glob.dropBack p longest cs)
    | .replaced spot w new =>
      let p ← pattern w
      let gs ← glyphs r fuel false false (← expandTilde false new)
      let new := Glyph.replacement gs
      valueGlyphs quoted inFields (v.map (replaceIn fold spot p new))
    | .inCase how all w =>
      let p ← pattern w
      valueGlyphs quoted inFields (v.map (changeCase how all p))
    | .transformed letter =>
      match letter with
      | 'a' =>
        match v with
        | .missing => return []
        | _ =>
          let letters := ((← lookup? name).map Variable.attributes).getD []
          valueGlyphs quoted inFields (v.map fun _ => letters)
      | 'A' =>
        let var := (← lookup? name).getD {}
        let isWhole := match i with
          | some (.error _) => true
          | _ => false
        let letters := var.attributes
        let front := if letters.isEmpty then name
          else "declare -".toList ++ letters ++ [' '] ++ name
        match var.content with
        | some (.indexed es) =>
          let text := if isWhole then elementsText (es.map fun e => (digits e.1, e.2)) false
            else quoteReusable ((es.lookup 0).getD [])
          return Glyph.ofValue quoted (front ++ ['='] ++ text)
        | some (.keyed es) => return Glyph.ofValue quoted (front ++ ['='] ++ elementsText es true)
        | some (.text cs) => return Glyph.ofValue quoted (front ++ ['='] ++ quoteReusable cs)
        | none => return []
      | 'K' =>
        match i, (← lookup? name).bind (·.content) with
        | some (.error _), some c =>
          let parts := c.elements.map fun e => e.1 ++ [' '] ++ quoteDouble e.2
          return Glyph.ofValue quoted (joinWith [' '] parts)
        | _, _ => valueGlyphs quoted inFields (v.map (transform letter))
      | 'k' =>
        match i, (← lookup? name).bind (·.content) with
        | some (.error star), some c =>
          valueGlyphs quoted inFields (.many star (c.elements.flatMap fun e => [e.1, e.2]))
        | _, _ => valueGlyphs quoted inFields (v.map (transform letter))
      | _ => valueGlyphs quoted inFields (v.map (transform letter))
    | .part offset length =>
      if v == .missing then return []
      let o ← number offset
      match v with
      | .missing => return []
      | .one cs =>
        let inside := if o < 0 then 0 ≤ o + cs.length else o ≤ cs.length
        let k ← match if inside then length else none with
          | some w => do pure (some (← number w))
          | none => pure none
        match partOf? cs o k with
        | some text => valueGlyphs quoted inFields (.one (if inside then text else []))
        | none =>
          complain (Glyph.text (← glyphs r fuel true false (length.getD [])) ++
            ": substring expression < 0".toList)
          giveUp
      | .many star ts =>
        let k ← match length with
          | some w => do pure (some (← number w))
          | none => pure none
        if k.any (· < 0) then
          complain (Glyph.text (← glyphs r fuel true false (length.getD [])) ++
            ": substring expression < 0".toList)
          giveUp
        let chosen : List Chars ← match i with
          | none =>
            let whole := (← process).name :: ts
            let start := if o < 0 then (whole.length : Int) + o else o
            pure (if start < 0 then [] else whole.drop start.toNat)
          | some _ =>
            let c := (← content? name).getD (.indexed [])
            match c with
            | .keyed es =>
              pure ((es.map (·.2)).drop (if o ≤ 0 then 0 else (o - 1).toNat))
            | _ =>
              let es := c.toIndexed
              let start := if o < 0 then (c.nextIndex : Int) + o else o
              pure (if start < 0 then [] else (es.filter fun e => start ≤ e.1).map (·.2))
        valueGlyphs quoted inFields (.many star (match k with
          | some n => chosen.take n.toNat
          | none => chosen))
    | _ => valueGlyphs quoted inFields v

end

/-- How deep words may be nested. -/
def wordFuel : Nat := 4000

/-- The one text that a word stands for. -/
def expandText (r : Runner) (w : Word) : Act Chars := do
  let w ← expandTilde false w
  return Glyph.text (← glyphs r (wordFuel + w.length) false false w)

/-- The text of a document or a sum. -/
def expandQuoted (r : Runner) (w : Word) : Act Chars :=
  return Glyph.text (← glyphs r (wordFuel + w.length) true false w)

/-- The value of an assignment. -/
def expandValue (r : Runner) (w : Word) : Act Chars := do
  let w ← expandTildes w
  return Glyph.text (← glyphs r (wordFuel + w.length) false false w)

/-- The pattern that a word stands for. -/
def expandPattern (r : Runner) (w : Word) : Act (List GlobChar) := do
  let w ← expandTilde false w
  let cs := Glyph.pattern (← glyphs r (wordFuel + w.length) false false w)
  return if ← isExtended then cs else Glob.hideCarets cs

/-- The names that a field stands for. -/
def expandField (field : List GlobChar) : Act (List Chars) := do
  let literal := field.map (·.1)
  if ← isOn "noglob" then return [literal]
  let groups ← hasExtra "extglob"
  let field := if ← isExtended then field else Glob.hideCarets field
  if !field.any fun c => !c.2 && (c.1 == '*' || c.1 == '?' || c.1 == '[' || c.1 == '(') then
    return [literal]
  if !Glob.isActive (Glob.ofChars groups field) then return [literal]
  let rules : NameRules := {
    groups := groups
    fold := ← hasExtra "nocaseglob"
    hidesDots := !(← hasExtra "dotglob")
    deep := ← hasExtra "globstar"
    dots := !(← isExtended) }
  match pathsMatching (← tree) rules field with
  | [] =>
    if ← hasExtra "failglob" then
      complain ("no match: ".toList ++ literal)
      giveUp
    return if ← hasExtra "nullglob" then [] else [literal]
  | found => return found

/-- Whether a word looks like an assignment. -/
def looksAssigned : Word → Bool
  | .plain cs :: _ =>
    let name := cs.takeWhile isNameChar
    isName name && (cs.drop name.length).head? == some '='
  | _ => false

/-- A word with the tilde replaced that stands in it as a value. -/
def expandInnerTilde (w : Word) : Act Word := do
  match w with
  | .plain cs :: rest =>
    let name := cs.takeWhile (· != '=')
    let value ← expandTildes (.plain (cs.drop (name.length + 1)) :: rest)
    return .plain (name ++ ['=']) :: value
  | _ => return w

/-- The texts that a word stands for. -/
def expandWord (r : Runner) (w : Word) : Act (List Chars) := do
  let extended ← isExtended
  let ws := if extended then Brace.expand w else [w]
  let mut found : List Chars := []
  for w in ws do
    let w ← if extended && looksAssigned w then expandInnerTilde w else expandTilde false w
    let gs ← glyphs r (wordFuel + w.length) false true w
    let separators := Separators.ofChars (← separatorText)
    for field in fieldsOf separators gs do
      found := found ++ (← expandField field)
  return found

/-- The texts that words stand for. -/
def expandWords (r : Runner) (ws : List Word) : Act (List Chars) := do
  let mut found : List Chars := []
  for w in ws do
    found := found ++ (← expandWord r w)
  return found

end Act

end ScriptMatrix.Sandbox.Shell
