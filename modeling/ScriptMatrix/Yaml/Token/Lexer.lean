import ScriptMatrix.Yaml.Token.Tag

/-!
# `ScriptMatrix.Yaml.Token.Lexer`: the tokens of a text

`tokens` cuts a text into tokens. Two things are not local to it. Block
collections begin and end where the indentation says so, hence a stack of
columns. And a mapping key is known only when its colon is reached, so
for every open flow collection the place where a key might have begun is
remembered, and the key mark is put in there later.
-/

set_option autoImplicit false

namespace ScriptMatrix.Yaml

/-- A place where a mapping key may have begun. -/
structure KeyPlace where
  /-- The number of tokens in front of it. -/
  position : Nat
  /-- Whether nothing but a key can stand there. -/
  required : Bool
  index : Nat
  line : Nat
  column : Nat
  deriving Repr

/-- The state of the lexer. -/
structure Lexer where
  cursor : Cursor
  tokens : Array Token
  /-- The column of the innermost block collection, -1 outside of all. -/
  indent : Int
  /-- The columns of the collections around it. -/
  outerIndents : List Int
  /-- Whether a key without `?` may begin here. -/
  keyAllowed : Bool
  /-- The possible key of the innermost flow collection, or of the block
  context. -/
  keyPlace : Option KeyPlace
  /-- The possible keys around it, one for each open flow collection. -/
  outerKeyPlaces : List (Option KeyPlace)
  deriving Repr

namespace Lexer

/-- The lexer in front of a text. -/
def start (cs : List Char) : Lexer :=
  ⟨Cursor.start cs, #[], -1, [], true, none, []⟩

/-- Whether a flow collection is open. -/
def inFlow (l : Lexer) : Bool := !l.outerKeyPlaces.isEmpty

/-- The state with one more token. -/
def push (l : Lexer) (kind : TokenKind) : Lexer :=
  { l with tokens := l.tokens.push ⟨kind, l.cursor.line + 1⟩ }

/-- The state with a token put in front of the one at a position. -/
def insertAt (l : Lexer) (position : Nat) (kind : TokenKind) : Lexer :=
  { l with tokens := l.tokens.insertIdxIfInBounds position ⟨kind, l.cursor.line + 1⟩ }

/-- Opens a block collection at a column unless one is open there
already. -/
def openBlock (l : Lexer) (column : Nat) (position : Option Nat) (kind : TokenKind) : Lexer :=
  if l.inFlow || (column : Int) ≤ l.indent then l
  else
    let l₁ := { l with indent := column, outerIndents := l.indent :: l.outerIndents }
    match position with
    | none => l₁.push kind
    | some p => l₁.insertAt p kind

/-- Closes the block collections that stand further in than `column`. -/
def closeBlocksFrom (column : Int) : List Int → Lexer → Lexer
  | [], l => l
  | outer :: rest, l =>
    if column < l.indent then
      closeBlocksFrom column rest { l.push .blockEnd with indent := outer, outerIndents := rest }
    else l

/-- Closes the block collections that stand further in than `column`. -/
def closeBlocks (l : Lexer) (column : Int) : Lexer :=
  if l.inFlow then l else closeBlocksFrom column l.outerIndents l

/-- Gives up a possible key, unless a key had to be there. -/
def dropKeyPlace (l : Lexer) (k : Option KeyPlace) : Except Error Unit :=
  if k.any (·.required) then l.cursor.fail "could not find expected ':'" else .ok ()

/-- Forgets the innermost possible key. -/
def forgetKey (l : Lexer) : Except Error Lexer := do
  l.dropKeyPlace l.keyPlace
  return { l with keyPlace := none }

/-- Remembers that a key may begin here. -/
def rememberKey (l : Lexer) : Except Error Lexer := do
  if !l.keyAllowed then return l
  let c := l.cursor
  let required := !l.inFlow && l.indent == (c.column : Int)
  let l₁ ← l.forgetKey
  return { l₁ with keyPlace := some ⟨l.tokens.size, required, c.index, c.line, c.column⟩ }

/-- A possible key unless it is out of date: a key stands on one line and
has at most 1024 bytes. -/
def freshKey (l : Lexer) (k : Option KeyPlace) : Except Error (Option KeyPlace) :=
  match k with
  | none => .ok none
  | some p =>
    if p.line < l.cursor.line || p.index + 1024 < l.cursor.index then do
      l.dropKeyPlace k
      return none
    else .ok k

/-- The state without a possible key that is out of date. Those around it
are looked at when their turn comes. -/
def dropStaleKey (l : Lexer) : Except Error Lexer := do
  return { l with keyPlace := ← l.freshKey l.keyPlace }

/-- Skips blanks, comments and line breaks. Where a key may begin in the
block context a tab is no blank. A byte order mark may begin a line, of
which it takes the first column. -/
def skipBlanks : Nat → Lexer → Lexer
  | 0, l => l
  | fuel + 1, l =>
    let c₀ := if l.cursor.column == 0 && l.cursor.at? byteOrderMark then l.cursor.skip 1
      else l.cursor
    let tabs := l.inFlow || !l.keyAllowed
    let (_, c₁) := c₀.span fun x => x == ' ' || (tabs && x == '\t')
    let (_, c₂) := if c₁.at? '#' then c₁.span (fun x => !isBreak x) else ([], c₁)
    if c₂.peek.any isBreak then
      skipBlanks fuel
        { l with cursor := c₂.skipBreak, keyAllowed := if l.inFlow then l.keyAllowed else true }
    else { l with cursor := c₂ }

/-- The state with a token of so many characters read. -/
def take (l : Lexer) (n : Nat) (kind : TokenKind) : Lexer :=
  { l.push kind with cursor := l.cursor.skip n }

/-- Ends the text. -/
def atStreamEnd (l : Lexer) : Except Error Lexer := do
  let c := l.cursor
  let l₁ := if c.column == 0 then l
    else { l with cursor := { c with column := 0, line := c.line + 1 } }
  let l₂ ← (l₁.closeBlocks (-1)).forgetKey
  return { l₂ with keyAllowed := false }.push .streamEnd

/-- Reads a directive line. -/
def atDirective (l : Lexer) : Except Error Lexer := do
  let l₁ ← (l.closeBlocks (-1)).forgetKey
  let (kind, c) ← readDirective l₁.cursor
  return { l₁.push kind with cursor := c, keyAllowed := false }

/-- Reads a document mark. -/
def atDocumentMark (l : Lexer) (kind : TokenKind) : Except Error Lexer := do
  let l₁ ← (l.closeBlocks (-1)).forgetKey
  return { l₁.take 3 kind with keyAllowed := false }

/-- Opens a flow collection. -/
def atFlowStart (l : Lexer) (kind : TokenKind) : Except Error Lexer := do
  let l₁ ← l.rememberKey
  let outer := l₁.keyPlace :: l₁.outerKeyPlaces
  return { l₁.take 1 kind with keyAllowed := true, keyPlace := none, outerKeyPlaces := outer }

/-- Closes a flow collection. -/
def atFlowEnd (l : Lexer) (kind : TokenKind) : Except Error Lexer := do
  let l₁ ← l.forgetKey
  let l₂ := match l₁.outerKeyPlaces with
    | [] => l₁
    | k :: rest => { l₁ with keyPlace := k, outerKeyPlaces := rest }
  return { l₂.take 1 kind with keyAllowed := false }

/-- Reads a comma. -/
def atFlowEntry (l : Lexer) : Except Error Lexer := do
  let l₁ ← l.forgetKey
  return { l₁.take 1 .flowEntry with keyAllowed := true }

/-- Reads the hyphen of a list item. -/
def atBlockEntry (l : Lexer) : Except Error Lexer := do
  if !l.inFlow && !l.keyAllowed then
    l.cursor.fail "block sequence entries are not allowed in this context"
  let l₁ ← (l.openBlock l.cursor.column none .blockListStart).forgetKey
  return { l₁.take 1 .blockEntry with keyAllowed := true }

/-- Reads the question mark of a key. -/
def atKey (l : Lexer) : Except Error Lexer := do
  if !l.inFlow && !l.keyAllowed then
    l.cursor.fail "mapping keys are not allowed in this context"
  let l₁ ← (l.openBlock l.cursor.column none .blockMappingStart).forgetKey
  return { l₁.take 1 .key with keyAllowed := !l.inFlow }

/-- Reads the colon of a value: it makes a key of what was a possible
one. -/
def atValue (l : Lexer) : Except Error Lexer :=
  match l.keyPlace with
  | some k =>
    let l₁ := (l.insertAt k.position .key).openBlock k.column (some k.position) .blockMappingStart
    .ok { l₁.take 1 .value with keyPlace := none, keyAllowed := false }
  | none =>
    if !l.inFlow && !l.keyAllowed then
      l.cursor.fail "mapping values are not allowed in this context"
    else
      let l₁ := l.openBlock l.cursor.column none .blockMappingStart
      .ok { l₁.take 1 .value with keyAllowed := !l.inFlow }

/-- Reads an anchor or an alias. -/
def atName (l : Lexer) (kind : String → TokenKind) : Except Error Lexer := do
  let l₁ ← l.rememberKey
  let (name, c) ← readAnchorName l₁.cursor
  return { l₁.push (kind name) with cursor := c, keyAllowed := false }

/-- Reads a tag. -/
def atTag (l : Lexer) : Except Error Lexer := do
  let l₁ ← l.rememberKey
  let (kind, c) ← readTag l₁.inFlow l₁.cursor
  return { l₁.push kind with cursor := c, keyAllowed := false }

/-- Reads a block scalar. -/
def atBlockScalar (l : Lexer) (fuel : Nat) (literal : Bool) : Except Error Lexer := do
  let l₁ ← l.forgetKey
  let s ← readBlock literal l₁.indent fuel (l₁.cursor.skip 1)
  return { l₁.push (.scalar (String.ofList s.text) false) with
    cursor := s.next, keyAllowed := true }

/-- Reads a quoted scalar. -/
def atQuoted (l : Lexer) (fuel : Nat) (quote : Char) : Except Error Lexer := do
  let l₁ ← l.rememberKey
  let c := l₁.cursor.skip 1
  let s ← readQuoted quote fuel c []
  return { l₁.push (.scalar (String.ofList s.text) false) with
    cursor := s.next, keyAllowed := false }

/-- Reads a plain scalar. -/
def atPlain (l : Lexer) (fuel : Nat) : Except Error Lexer := do
  let l₁ ← l.rememberKey
  let c := l₁.cursor
  let s ← readPlain l₁.inFlow (l₁.indent + 1) fuel c [] Gap.empty
  return { l₁.push (.scalar (String.ofList s.text) true) with
    cursor := s.next, keyAllowed := s.broken }

/-- Whether a plain scalar may begin with `x`, where `blank` and
`blankOrEnd` tell what follows it. -/
def startsPlain (flow : Bool) (x : Char) (space blankOrEnd : Bool) : Bool :=
  let indicators := ['-', '?', ':', ',', '[', ']', '{', '}', '#', '&', '*', '!', '|', '>', '\'',
    '"', '%', '@', Char.ofNat 96]
  (!indicators.contains x && !isSpace x)
    || (x == '-' && !space)
    || (!flow && (x == '?' || x == ':') && !blankOrEnd)

/-- Reads the token at the cursor, on which there is a character that is
no blank. `fuel` bounds the characters that are left. -/
def atChar (l : Lexer) (fuel : Nat) (x : Char) : Except Error Lexer :=
  let c := l.cursor
  let loose := c.blankOrEndAt 1
  if c.column == 0 && x == '%' then l.atDirective
  else if c.atMark '-' then l.atDocumentMark .documentStart
  else if c.atMark '.' then l.atDocumentMark .documentEnd
  else if x == '[' then l.atFlowStart .flowListStart
  else if x == '{' then l.atFlowStart .flowMappingStart
  else if x == ']' then l.atFlowEnd .flowListEnd
  else if x == '}' then l.atFlowEnd .flowMappingEnd
  else if x == ',' then l.atFlowEntry
  else if x == '-' && loose then l.atBlockEntry
  else if x == '?' && (l.inFlow || loose) then l.atKey
  else if x == ':' && (l.inFlow || loose) then l.atValue
  else if x == '*' then l.atName .alias
  else if x == '&' then l.atName .anchor
  else if x == '!' then l.atTag
  else if x == '|' && !l.inFlow then l.atBlockScalar fuel true
  else if x == '>' && !l.inFlow then l.atBlockScalar fuel false
  else if x == '\'' || x == '"' then l.atQuoted fuel x
  else if startsPlain l.inFlow x ((c.peekAt 1).any isSpace) loose then l.atPlain fuel
  else c.fail "found character that cannot start any token"

/-- Reads tokens to the end of the text. Each takes at least one character,
so `fuel` may be their number, and bounds the characters that are left. -/
def run : Nat → Lexer → Except Error (Array Token)
  | 0, l => .ok l.tokens
  | fuel + 1, l => do
    let l₁ ← (skipBlanks (fuel + 1) l).dropStaleKey
    let l₂ := l₁.closeBlocks l₁.cursor.column
    match l₂.cursor.peek with
    | none => return (← l₂.atStreamEnd).tokens
    | some x => run fuel (← l₂.atChar (fuel + 1) x)

end Lexer

/-- The tokens of a text, the last of which marks its end. -/
def tokens (s : String) : Except Error (List Token) :=
  let cs := s.toList
  match cs.find? (fun c => !isAllowed c) with
  | some c => .error (.forbiddenCharacter c)
  | none => (Lexer.run (cs.length + 2) (Lexer.start cs)).map Array.toList

end ScriptMatrix.Yaml
