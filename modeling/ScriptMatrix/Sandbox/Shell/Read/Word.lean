import ScriptMatrix.Sandbox.Shell.Read.Escape
import ScriptMatrix.Sandbox.Shell.Read.Scan

/-!
# `ScriptMatrix.Sandbox.Shell.Read.Word`: reading words

A word is read piece by piece up to where its surroundings end it: a
blank, a quote, a brace. Commands may stand in a word, between
parentheses behind a dollar sign; how those are read is a parameter here.
-/

set_option autoImplicit false

namespace ScriptMatrix.Sandbox.Shell

/-- How far pieces reach. -/
inductive Extent where
  /-- Up to a character that ends a word. -/
  | word
  /-- A regular expression; parentheses belong to it. -/
  | regex
  /-- Up to a double quote. -/
  | double
  /-- Up to a closing brace. -/
  | braces
  /-- Up to a closing brace, between double quotes. -/
  | quotedBraces
  /-- Up to a slash or a closing brace. -/
  | slash
  /-- Up to a closing parenthesis. -/
  | group
  /-- To the end of a document. -/
  | document
  /-- To the end of a sum. -/
  | sum
  /-- To the end, with quotes. -/
  | whole
  deriving Repr, DecidableEq

namespace Extent

/-- Whether a character ends what is read. -/
def ends (x : Extent) (c : Char) : Bool :=
  match x with
  | .word => isMeta c
  | .regex => isGap c || c == '\n' || c == ')'
  | .double => c == '"'
  | .braces | .quotedBraces => c == '\x7d'
  | .slash => c == '\x7d' || c == '/'
  | .group => c == ')'
  | .document | .sum | .whole => false

/-- The character that has to come. -/
def closing : Extent → Option Char
  | .double => some '"'
  | .braces | .quotedBraces | .slash => some '\x7d'
  | .group => some ')'
  | _ => none

/-- Whether what is read stands between double quotes. -/
def isQuoted : Extent → Bool
  | .double | .quotedBraces | .document | .sum => true
  | _ => false

/-- Whether double quotes quote. -/
def knowsDouble : Extent → Bool
  | .double | .document | .sum => false
  | _ => true

/-- Whether a character has to be looked at. -/
def isSpecial (x : Extent) (c : Char) : Bool :=
  x.ends c || c == '\\' || c == '$' || c == Char.ofNat 96 ||
    (c == '"' && (x.knowsDouble || x == .sum)) || (c == '\'' && !x.isQuoted)

/-- The characters that a backslash makes ordinary between double quotes. -/
def isEscapable (x : Extent) (c : Char) : Bool :=
  c == '$' || c == '\\' || c == Char.ofNat 96 ||
    (c == '"' && (x == .double || x == .quotedBraces || x == .sum)) ||
    (c == '\x7d' && x == .quotedBraces)

end Extent

/-- The name of a parameter at the front of a text. -/
def parameterName : Chars → Chars
  | [] => []
  | c :: cs =>
    if isNameStart c then c :: cs.takeWhile isNameChar
    else if isDigit c then c :: cs.takeWhile isDigit
    else if specialParameters.contains c then [c]
    else []

/-- What stands behind an opening brace: a name, and what is asked of it. -/
structure BraceFront where
  name : Chars
  size : Bool := false
  indirect : Bool := false
  /-- How many characters it takes up. -/
  length : Nat

/-- The front of a parameter in braces. A sign in front of a name asks for
its size or takes its value for a name; without a name behind it, it is a
parameter of its own. -/
def BraceFront.ofChars (extended : Bool) (cs : Chars) : BraceFront :=
  let signed := fun (sign : Char) (rest : Chars) =>
    let name := parameterName rest
    let after := (rest.drop name.length).head?
    let isOperator := name == ['-'] || name == ['?'] || name == ['#']
    if name.isEmpty || (isOperator && after != some '\x7d') then ⟨[sign], false, false, 1⟩
    else ⟨name, sign == '#', sign == '!', name.length + 1⟩
  match cs with
  | '#' :: rest => signed '#' rest
  | '!' :: rest => if extended then signed '!' rest else ⟨['!'], false, false, 1⟩
  | _ => ⟨parameterName cs, false, false, (parameterName cs).length⟩

/-- A text up to the colon that parts an offset from a length, and what is
behind the colon. Parentheses and choices hide colons. -/
def splitOffset : Nat → Nat → Chars → Chars × Option Chars
  | _, _, [] => ([], none)
  | depth, choices, c :: cs =>
    let go := fun depth choices =>
      let (front, back) := splitOffset depth choices cs
      (c :: front, back)
    if ['(', '[', '\x7b'].contains c then go (depth + 1) choices
    else if [')', ']', '\x7d'].contains c then go (depth - 1) choices
    else if c == '?' && depth == 0 then go depth (choices + 1)
    else if c == ':' && depth == 0 then
      if choices == 0 then ([], some cs) else go depth (choices - 1)
    else go depth choices

/-- The text up to a backquote, with the backslashes removed that hide
characters from it, and what is behind it. -/
def takeBackquoted (quoted : Bool) : Nat → Chars → Option (Chars × Chars)
  | 0, _ => none
  | fuel + 1, cs =>
    let also := fun (c : Char) (rest : Chars) =>
      (takeBackquoted quoted fuel rest).map fun (text, after) => (c :: text, after)
    match cs with
    | [] => none
    | '\\' :: c :: rest =>
      if c == '$' || c == '\\' || c == Char.ofNat 96 || (c == '"' && quoted) then also c rest
      else (also c rest).map fun (text, after) => ('\\' :: text, after)
    | c :: rest => if c == Char.ofNat 96 then some ([], rest) else also c rest

/-- The text up to the quote that ends it, where a backslash hides one. -/
def takeEscaped : Nat → Chars → Option (Chars × Chars)
  | 0, _ => none
  | fuel + 1, cs =>
    match cs with
    | [] => none
    | '\\' :: c :: rest =>
      (takeEscaped fuel rest).map fun (text, after) => ('\\' :: c :: text, after)
    | '\'' :: rest => some ([], rest)
    | c :: rest => (takeEscaped fuel rest).map fun (text, after) => (c :: text, after)

/-- Whether a text begins a group of patterns. -/
def isGroupFront : Chars → Bool
  | c :: '(' :: _ => ['?', '*', '+', '@', '!'].contains c
  | _ => false

namespace Read

/-- Reads a text of its own. -/
def within {α : Type} (text : Chars) (r : Read α) : Read α := do
  let s ← get
  match r.run { s with rest := text, cut := 0 } with
  | .ok (a, _) => return a
  | .error e => throw e

/-- The text that is passed over by a step. -/
def consumed {α : Type} (r : Read α) : Read (α × Chars) := do
  let before := (← get).rest
  let a ← r
  let after := (← get).rest
  return (a, before.take (before.length - after.length))

/-- The index behind a name, if there is one. A bracket that nothing closes
is none. -/
def index (whole : Chars → Read Word) (name : Chars) : Read Index := do
  let s ← get
  if s.dialect == .extended && isName name && s.rest.head? == some '[' then
    match (takeBalanced '[' ']').run { s with rest := s.rest.drop 1 } with
    | .error _ => return .none
    | .ok (text, s) =>
      set s
      if text == ['@'] then return .all false
      if text == ['*'] then return .all true
      return .element (← whole text)
  else return .none

/-- Puts pieces in front of those that are read next. -/
def infront (new : Word) (next : Read Word) : Read Word := do
  let rest ← next
  return new ++ rest

mutual

/-- Reads pieces, given how commands up to a closing parenthesis are
read. -/
def pieces (commands : Read (List Command)) : Nat → Extent → Read Word
  | 0, _ => do throw (.unfinished (← get).line none)
  | fuel + 1, x => do
    joins
    let s ← get
    let next := pieces commands fuel x
    match s.rest with
    | [] =>
      if x.closing.isSome then throw (.unfinished s.line x.closing) else return []
    | c :: rest =>
      if x == .word && (c == '<' || c == '>') && rest.head? == some '(' &&
          s.dialect == .extended then
        drop 2
        let body ← commands
        expect ")"
        infront [.channel (c == '<') body] next
      else if x.ends c then return []
      else if c == '\\' then
        match rest with
        | [] =>
          drop 1
          return [.plain ['\\']]
        | d :: _ =>
          drop 2
          if !x.isQuoted || x.isEscapable d then infront [.quoted [d]] next
          else infront [.plain ['\\', d]] next
      else if c == '\'' && !x.isQuoted then
        let text := rest.takeWhile (· != '\'')
        if text.length == rest.length then throw (.unfinished s.line (some '\''))
        drop (text.length + 2)
        infront [.quoted text] next
      else if c == '"' && x == .sum then
        drop 1
        if s.dialect == .extended then next else infront [.plain ['"']] next
      else if c == '"' && x.knowsDouble then
        drop 1
        let inner ← pieces commands fuel .double
        drop 1
        infront [.double inner] next
      else if c == Char.ofNat 96 then
        drop 1
        match takeBackquoted x.isQuoted (rest.length + 1) rest with
        | none => throw (.unfinished s.line (some (Char.ofNat 96)))
        | some (text, after) =>
          drop (rest.length - after.length)
          if s.dialect == .extended then infront [.outputOf text] next
          else infront [.output (← within text commands)] next
      else if c == '$' then
        drop 1
        let new ← dollar commands fuel x
        infront new next
      else if !x.isQuoted && s.groups && isGroupFront s.rest then
        drop 2
        let inner ← pieces commands fuel .group
        expect ")"
        infront ([.plain [c, '(']] ++ inner ++ [.plain [')']]) next
      else if (x == .regex || x == .group) && c == '(' then
        drop 1
        let inner ← pieces commands fuel .group
        expect ")"
        infront ([.plain ['(']] ++ inner ++ [.plain [')']]) next
      else
        let stop := fun (d : Char) =>
          x.isSpecial d || (!x.isQuoted && ['?', '*', '+', '@', '!', '('].contains d)
        let text := c :: rest.takeWhile (!stop ·)
        drop text.length
        infront [.plain text] next

/-- Reads what stands behind a dollar sign. -/
def dollar (commands : Read (List Command)) : Nat → Extent → Read Word
  | 0, _ => do throw (.unfinished (← get).line none)
  | fuel + 1, x => do
    joins
    let s ← get
    let extended := s.dialect == .extended
    match s.rest with
    | '(' :: '(' :: _ =>
      drop 2
      match ← takeSum? with
      | some text => return [.sum (← within text (pieces commands fuel .sum))]
      | none =>
        set s
        drop 1
        let body ← commands
        expect ")"
        return [.output body]
    | '(' :: _ =>
      drop 1
      let body ← commands
      expect ")"
      return [.output body]
    | '[' :: _ =>
      if extended then
        drop 1
        let text ← takeBalanced '[' ']'
        return [.sum (← within text (pieces commands fuel .sum))]
      else return [.plain ['$']]
    | '\x7b' :: _ =>
      drop 1
      let (p, written) ← consumed (braced commands fuel x.isQuoted)
      match p with
      | .parameter _ name i indirect u => return [.parameter written name i indirect u]
      | .nonsense _ => return [.nonsense (['$', '\x7b'] ++ written)]
      | other => return [other]
    | '\'' :: rest =>
      if extended && (!x.isQuoted || x == .quotedBraces) then
        match takeEscaped (rest.length + 1) rest with
        | none => throw (.unfinished s.line (some '\''))
        | some (text, after) =>
          drop (1 + (rest.length - after.length))
          return [.quoted (unescapeDollar (text.length + 1) text)]
      else return [.plain ['$']]
    | '"' :: _ =>
      if extended && !x.isQuoted then return [] else return [.plain ['$']]
    | c :: _ =>
      let name := if isDigit c then [c] else parameterName s.rest
      if name.isEmpty then return [.plain ['$']]
      drop name.length
      return [.parameter name name .none false .value]
    | [] => return [.plain ['$']]

/-- Reads a parameter behind its opening brace. -/
def braced (commands : Read (List Command)) : Nat → Bool → Read Piece
  | 0, _ => do throw (.unfinished (← get).line none)
  | fuel + 1, quoted => do
    joins
    let s ← get
    let extended := s.dialect == .extended
    let front := BraceFront.ofChars extended s.rest
    let nonsense : Read Piece := do
      let _ ← pieces commands fuel (if quoted then .quotedBraces else .braces)
      expect "\x7d"
      return .nonsense []
    if front.name.isEmpty then nonsense
    else
      drop front.length
      let i ← index (fun text => within text (pieces commands fuel .whole)) front.name
      let made := fun (u : Use) => Piece.parameter [] front.name i front.indirect u
      if front.size then
        if ← bumpIf "\x7d" then return made .size else nonsense
      else if front.indirect && (← looksAt "*\x7d") then
        drop 2
        return .parameter [] front.name .none false (.names true)
      else if front.indirect && (← looksAt "@\x7d") then
        drop 2
        return .parameter [] front.name .none false (.names false)
      else if ← bumpIf "\x7d" then
        match front.indirect, i with
        | true, .all star => return .parameter [] front.name i false (.keys star)
        | _, _ => return made .value
      else
        match ← operator commands fuel extended quoted with
        | some u => return made u
        | none => nonsense

/-- Reads what is made of a parameter's value, up to the closing brace;
none if that makes no sense. -/
def operator (commands : Read (List Command)) : Nat → Bool → Bool → Read (Option Use)
  | 0, _, _ => do throw (.unfinished (← get).line none)
  | fuel + 1, extended, quoted => do
    let operand := do
      let w ← pieces commands fuel (if quoted then .quotedBraces else .braces)
      expect "\x7d"
      return w
    let pattern := do
      let w ← pieces commands fuel .braces
      expect "\x7d"
      return w
    let remedy := fun (r : Remedy) (emptyToo : Bool) => do
      drop (if emptyToo then 2 else 1)
      return some (Use.remedy r emptyToo (← operand))
    let trimmed := fun (isFront longest : Bool) => do
      drop (if longest then 2 else 1)
      return some (Use.trimmed isFront longest (← pattern))
    let inCase := fun (how : LetterCase) (sign : Char) => do
      drop 1
      let all := (← peek) == some sign
      if all then drop 1
      return some (Use.inCase how all (← pattern))
    joins
    match (← get).rest with
    | ':' :: '-' :: _ => remedy .fallback true
    | ':' :: '=' :: _ => remedy .assigned true
    | ':' :: '?' :: _ => remedy .demanded true
    | ':' :: '+' :: _ => remedy .alternative true
    | '-' :: _ => remedy .fallback false
    | '=' :: _ => remedy .assigned false
    | '?' :: _ => remedy .demanded false
    | '+' :: _ => remedy .alternative false
    | '#' :: '#' :: _ => trimmed true true
    | '#' :: _ => trimmed true false
    | '%' :: '%' :: _ => trimmed false true
    | '%' :: _ => trimmed false false
    | c :: rest =>
      if !extended then return none
      else if c == '^' then inCase .upper c
      else if c == ',' then inCase .lower c
      else if c == '~' then inCase .swapped c
      else if c == '@' then
        match rest with
        | letter :: '\x7d' :: _ =>
          if ['U', 'u', 'L', 'Q', 'E', 'P', 'A', 'K', 'a', 'k'].contains letter then
            drop 3
            return some (.transformed letter)
          else return none
        | _ => return none
      else if c == ':' then
        if rest.head? == some '\x7d' then return none
        drop 1
        let text ← takeBalanced '\x7b' '\x7d'
        let (offset, length) := splitOffset 0 0 text
        let offset ← within offset (pieces commands fuel .sum)
        match length with
        | none => return some (.part offset none)
        | some length =>
          return some (.part offset (some (← within length (pieces commands fuel .sum))))
      else if c == '/' then
        drop 1
        let spot := match rest.head? with
          | some '/' => Spot.everywhere
          | some '#' => Spot.front
          | some '%' => Spot.back
          | _ => Spot.first
        if spot != .first then drop 1
        let slashed ← if spot == .everywhere then bumpIf "/" else pure false
        let p ← pieces commands fuel .slash
        let p := if slashed then .plain ['/'] :: p else p
        let new ← if ← bumpIf "/" then pieces commands fuel .braces else pure []
        expect "\x7d"
        return some (.replaced spot p new)
      else return none
    | [] => return none

end

/-- Reads a word. -/
def word (commands : Read (List Command)) (x : Extent) : Read Word := do
  pieces commands (4 * (← get).rest.length + 16) x

end Read

end ScriptMatrix.Sandbox.Shell
