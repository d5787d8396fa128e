import ScriptMatrix.Regex.Brackets
import ScriptMatrix.Regex.Expr
import ScriptMatrix.Unicode.CaseFolding

/-!
# `ScriptMatrix.Regex.Meaning`: applying flags

A tree becomes an expression by applying the flags in force at each part.
They hold from where they are switched to the end of the group, through
all alternatives. With the Unicode flag off, classes consist of bytes;
only ASCII ones are allowed then, for others split characters.
-/

set_option autoImplicit false

namespace ScriptMatrix.Regex

open ScriptMatrix.Unicode (CharSet)

/-- The flags in force. -/
structure Flags where
  ignoreCase : Bool := false
  multiLine : Bool := false
  dotAll : Bool := false
  unicode : Bool := true
  swapGreed : Bool := false
  crlf : Bool := false
  deriving Repr

/-- Switches a flag. Verbose mode has had its effect in reading. -/
def Flags.switch (f : Flags) : Flag × Bool → Flags
  | (.ignoreCase, on) => { f with ignoreCase := on }
  | (.multiLine, on) => { f with multiLine := on }
  | (.dotAll, on) => { f with dotAll := on }
  | (.unicode, on) => { f with unicode := on }
  | (.crlf, on) => { f with crlf := on }
  | (.swapGreed, on) => { f with swapGreed := on }
  | (.verbose, _) => f

/-- Switches several flags. -/
def Flags.switchAll (f : Flags) (switches : Switches) : Flags := switches.foldl Flags.switch f

/-- The set with the other case of its ASCII letters. -/
def closeAscii (s : CharSet) : CharSet :=
  let letters := (List.range 26).flatMap fun i =>
    if s.hasCode (65 + i) || s.hasCode (97 + i) then [65 + i, 97 + i] else []
  s.union (.ofList letters)

/-- The set with all that differ from a member in case only, if case is
ignored. -/
def Flags.fold (f : Flags) (s : CharSet) : CharSet :=
  if !f.ignoreCase then s
  else if f.unicode then Unicode.CaseFolding.close s
  else closeAscii s

/-- A set or what is not in it. In byte mode the latter is never ASCII. -/
def Flags.negate (f : Flags) (negated : Bool) (s : CharSet) : Except Error CharSet :=
  if !negated then .ok s
  else if f.unicode then .ok s.complement
  else .error .splitsCharacters

/-- The code of a letter in brackets. -/
def Flags.code (f : Flags) (l : Letter) : Except Error Nat :=
  let n := l.char.toNat
  if f.unicode || n ≤ 0x7f then .ok n
  else if l.byte then .error .splitsCharacters
  else .error .needsCharacters

/-- The characters of a shorthand. -/
def Flags.shorthand (f : Flags) : Shorthand → CharSet
  | .digit => if f.unicode then Unicode.digits else ⟨[(48, 57)]⟩
  | .blank => if f.unicode then Unicode.blanks else ⟨[(9, 13), (32, 32)]⟩
  | .word => if f.unicode then Unicode.wordChars else asciiWord

/-- The characters with a property. -/
def Flags.property (f : Flags) (name : PropertyName) : Except Error CharSet :=
  if !f.unicode then .error .needsCharacters
  else
    let (found, label) := match name with
      | .single n => (Unicode.byName? n, n)
      | .value n v => (Unicode.byValue? n v, n ++ "=" ++ v)
    match found with
    | some s => .ok s
    | none => .error (.unknownProperty label)

/-- Two sets combined. -/
def SetOperation.apply (a b : CharSet) : SetOperation → CharSet
  | .intersection => a.inter b
  | .difference => a.diff b
  | .symmetricDifference => a.symmDiff b

mutual

/-- The characters of a class. Case is ignored before a class is negated
or combined. -/
def ClassSet.chars (f : Flags) : ClassSet → Except Error CharSet
  | .letter l => do
    let n ← f.code l
    return .range n n
  | .range lo hi => do return .range (← f.code lo) (← f.code hi)
  | .ascii name negated => f.negate negated (f.fold ⟨(asciiClasses.lookup name).getD []⟩)
  | .shorthand kind negated => f.negate negated (f.shorthand kind)
  | .property name negated => do f.negate negated (f.fold (← f.property name))
  | .bracketed negated inner => do f.negate negated (f.fold (← inner.chars f))
  | .union items => ClassSet.charsOfItems f items
  | .operation op left right => do
    let a ← left.chars f
    let b ← right.chars f
    return op.apply (f.fold a) (f.fold b)

/-- The characters of several class parts together. -/
def ClassSet.charsOfItems (f : Flags) : List ClassSet → Except Error CharSet
  | [] => .ok .empty
  | s :: ss => do return (← s.chars f).union (← ClassSet.charsOfItems f ss)

end

/-- The condition that an anchor stands for. -/
def Flags.look (f : Flags) : Anchor → Look
  | .caret => if !f.multiLine then .textStart else if f.crlf then .lineStartAny else .lineStart
  | .dollar => if !f.multiLine then .textEnd else if f.crlf then .lineEndAny else .lineEnd
  | .textStart => .textStart
  | .textEnd => .textEnd
  | .word => .word f.unicode
  | .notWord => .notWord f.unicode
  | .wordStart => .wordStart f.unicode
  | .wordEnd => .wordEnd f.unicode
  | .wordStartHalf => .wordStartHalf f.unicode
  | .wordEndHalf => .wordEndHalf f.unicode

/-- The characters that a dot stands for. -/
def Flags.dot (f : Flags) : Except Error CharSet :=
  if !f.unicode then .error .splitsCharacters
  else if f.dotAll then .ok .all
  else if f.crlf then .ok (CharSet.ofList [0x0a, 0x0d]).complement
  else .ok (CharSet.ofList [0x0a]).complement

/-- The characters that a letter stands for. -/
def Flags.letter (f : Flags) (l : Letter) : Except Error CharSet :=
  if !f.unicode && l.byte && 0x7f < l.char.toNat then .error .splitsCharacters
  else .ok (f.fold (.single l.char))

/-- A step in applying flags. -/
abbrev Applying := StateT Flags (Except Error)

mutual

/-- The expression that a tree stands for. -/
def Pattern.expr : Pattern → Applying Expr
  | .empty => return .empty
  | .flags switches => do
    modify (·.switchAll switches)
    return .empty
  | .letter l => do return .ofSet (← (← get).letter l)
  | .dot => do return .ofSet (← (← get).dot)
  | .anchor a => do return .look ((← get).look a)
  | .shorthand kind negated => do
    let f ← get
    return .ofSet (← f.negate negated (f.shorthand kind))
  | .property name negated => do
    return .ofSet (← (ClassSet.property name negated).chars (← get))
  | .bracketed negated inner => do
    return .ofSet (← (ClassSet.bracketed negated inner).chars (← get))
  | .repeated part least most stingy => do
    let e ← part.expr
    return .ofRepetition e least most (stingy == (← get).swapGreed)
  | .group switches part => do
    let outer ← get
    set (outer.switchAll switches)
    let e ← part.expr
    set outer
    return e
  | .captured part => do
    let outer ← get
    let e ← part.expr
    set outer
    return .captured e
  | .alternatives parts => do return .ofAlternatives (← Pattern.exprs parts)
  | .sequence parts => do return .ofSequence (← Pattern.exprs parts)

/-- The expressions of several trees, where flags last from one to the
next. -/
def Pattern.exprs : List Pattern → Applying (List Expr)
  | [] => return []
  | p :: ps => do return (← p.expr) :: (← Pattern.exprs ps)

end

end ScriptMatrix.Regex
