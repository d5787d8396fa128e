import ScriptMatrix.Yaml.Cursor

/-!
# `ScriptMatrix.Yaml.Token.Scalar`: reading scalars

Scalars are plain, quoted or blocks. In plain and quoted ones a line
break with the blanks around it folds to a space, and `n` breaks in a row
to `n - 1` line feeds; a literal block keeps its breaks, a folded one
folds those between lines that are not indented further.
-/

set_option autoImplicit false

namespace ScriptMatrix.Yaml

/-- The white space between two pieces of a scalar: either blanks within
a line, or a first line break and those after it. -/
structure Gap where
  blanks : List Char
  firstBreak : List Char
  moreBreaks : List Char
  /-- Whether a line break is part of it. -/
  broken : Bool
  deriving Repr

namespace Gap

/-- No white space. -/
def empty : Gap := ⟨[], [], [], false⟩

/-- What a gap contributes to the content. -/
def folded (g : Gap) : List Char :=
  if !g.broken then g.blanks
  else if g.firstBreak == ['\n'] then
    if g.moreBreaks.isEmpty then [' '] else g.moreBreaks
  else g.firstBreak ++ g.moreBreaks

/-- A gap with one more line break. -/
def addBreak (g : Gap) (b : List Char) : Gap :=
  if g.broken then { g with moreBreaks := g.moreBreaks ++ b }
  else ⟨[], b, g.moreBreaks, true⟩

end Gap

/-- Reads the white space from here on. Where `indent` is given, a tab
that stands for indentation below it is an error; `fuel` bounds the
characters. -/
def readGap (indent : Option Int) : Nat → Cursor → Gap → Except Error (Gap × Cursor)
  | 0, c, g => .ok (g, c)
  | fuel + 1, c, g =>
    match c.peek with
    | none => .ok (g, c)
    | some x =>
      if isSpace x then
        if g.broken && x == '\t' && indent.any (fun i => (c.column : Int) < i) then
          c.fail "a tab character violates the indentation"
        else
          readGap indent fuel (c.skip 1)
            (if g.broken then g else { g with blanks := g.blanks ++ [x] })
      else if isBreak x then
        let (b, c') := c.readBreak
        readGap indent fuel c' (g.addBreak b)
      else .ok (g, c)

/-- A scalar read from the text. -/
structure ScalarText where
  text : List Char
  /-- The place after the scalar. -/
  next : Cursor
  /-- Whether the scalar was left by way of a line break. -/
  broken : Bool
  deriving Repr

/-- Inside a flow collection these end a plain scalar. -/
def isFlowIndicator (c : Char) : Bool := [',', '[', ']', '{', '}'].contains c

/-- The text of pieces that are kept with the last one in front. -/
def ofPieces (pieces : List (List Char)) : List Char := pieces.reverse.flatten

/-- The characters of a plain scalar up to a blank or its end, after those
read so far in reversed order; a colon that glues a flow indicator is an
error. -/
def readPlainPiece (flow : Bool) : Nat → Cursor → List Char → Except Error (List Char × Cursor)
  | 0, c, before => .ok (before.reverse, c)
  | fuel + 1, c, before =>
    match c.peek with
    | none => .ok (before.reverse, c)
    | some x =>
      if isSpace x || isBreak x then .ok (before.reverse, c)
      else if flow && x == ':'
          && (c.peekAt 1).any (fun y => isFlowIndicator y || y == '?') then
        c.fail "found unexpected ':'"
      else if (x == ':' && c.blankOrEndAt 1) || (flow && isFlowIndicator x) then
        .ok (before.reverse, c)
      else readPlainPiece flow fuel (c.skip 1) (x :: before)

/-- Reads a plain scalar: pieces with white space between them, as long
as the lines stay at `indent` or further in. `fuel` bounds the characters
that are left. -/
def readPlain (flow : Bool) (indent : Int) :
    Nat → Cursor → List (List Char) → Gap → Except Error ScalarText
  | 0, c, before, g => .ok ⟨ofPieces before, c, g.broken⟩
  | fuel + 1, c, before, g => do
    if c.atDocumentMark || c.at? '#' then return ⟨ofPieces before, c, g.broken⟩
    let (piece, c₁) ← readPlainPiece flow (fuel + 1) c []
    let before₁ := if piece.isEmpty then before else piece :: g.folded :: before
    let g₁ := if piece.isEmpty then g else Gap.empty
    if !c₁.blankOrEndAt 0 || c₁.atEnd then return ⟨ofPieces before₁, c₁, g₁.broken⟩
    let (g₂, c₂) ← readGap (some indent) (fuel + 1) c₁ g₁
    if !flow && (c₂.column : Int) < indent then return ⟨ofPieces before₁, c₂, g₂.broken⟩
    readPlain flow indent fuel c₂ before₁ g₂

/-- The characters that one letter after a backslash stands for. -/
def escapeChar? (c : Char) : Option Char :=
  match c with
  | '0' => some (Char.ofNat 0)
  | 'a' => some (Char.ofNat 7)
  | 'b' => some (Char.ofNat 8)
  | 't' | '\t' => some '\t'
  | 'n' => some '\n'
  | 'v' => some (Char.ofNat 11)
  | 'f' => some (Char.ofNat 12)
  | 'r' => some '\r'
  | 'e' => some (Char.ofNat 27)
  | ' ' | '"' | '/' | '\\' => some c
  | 'N' => some nextLine
  | '_' => some (Char.ofNat 0xa0)
  | 'L' => some lineSeparator
  | 'P' => some paragraphSeparator
  | _ => none

/-- How many hexadecimal digits follow the letter of an escape. -/
def escapeDigits? (c : Char) : Option Nat :=
  match c with
  | 'x' => some 2
  | 'u' => some 4
  | 'U' => some 8
  | _ => none

/-- The value of a hexadecimal digit. -/
def hexValue? (c : Char) : Option Nat :=
  if '0' ≤ c && c ≤ '9' then some (c.toNat - 48)
  else if 'a' ≤ c && c ≤ 'f' then some (c.toNat - 87)
  else if 'A' ≤ c && c ≤ 'F' then some (c.toNat - 55)
  else none

/-- The number that hexadecimal digits write. -/
def hexNumber? (cs : List Char) : Option Nat :=
  cs.foldlM (fun n c => (hexValue? c).map (n * 16 + ·)) 0

/-- The character of a code point that is one. -/
def charOfCode? (n : Nat) : Option Char := if n.isValidChar then some (Char.ofNat n) else none

/-- Reads an escape that is no line break; the cursor is on the backslash. -/
def readEscape (c : Cursor) : Except Error (Char × Cursor) :=
  match c.peekAt 1 with
  | none => c.fail "unexpected end of a quoted scalar"
  | some x =>
    match escapeChar? x, escapeDigits? x with
    | some y, _ => .ok (y, c.skip 2)
    | none, some n =>
      let digits := (c.rest.drop 2).take n
      match hexNumber? digits with
      | some v =>
        if digits.length < n then c.fail "did not find expected hexadecimal number"
        else match charOfCode? v with
          | some y => .ok (y, c.skip (2 + n))
          | none => c.fail "found invalid Unicode character escape code"
      | none => c.fail "did not find expected hexadecimal number"
    | none, none => c.fail "found unknown escape character"

/-- The characters of a quoted scalar up to a blank, the closing quote or
an escaped line break, after those read so far in reversed order; the
last component tells whether it was the line break, which is then read. -/
def readQuotedPiece (quote : Char) :
    Nat → Cursor → List Char → Except Error (List Char × Cursor × Bool)
  | 0, c, before => .ok (before.reverse, c, false)
  | fuel + 1, c, before =>
    match c.peek with
    | none => .ok (before.reverse, c, false)
    | some x =>
      if isSpace x || isBreak x then .ok (before.reverse, c, false)
      else if quote == '\'' && x == '\'' && c.peekAt 1 == some '\'' then
        readQuotedPiece quote fuel (c.skip 2) ('\'' :: before)
      else if x == quote then .ok (before.reverse, c, false)
      else if quote == '"' && x == '\\' then
        if (c.peekAt 1).any isBreak then .ok (before.reverse, (c.skip 1).skipBreak, true)
        else do
          let (y, c') ← readEscape c
          readQuotedPiece quote fuel c' (y :: before)
      else readQuotedPiece quote fuel (c.skip 1) (x :: before)

/-- Reads a quoted scalar after its opening quote. `fuel` bounds the
characters that are left. -/
def readQuoted (quote : Char) : Nat → Cursor → List (List Char) → Except Error ScalarText
  | 0, c, _ => c.fail "unexpected end of a quoted scalar"
  | fuel + 1, c, before => do
    if c.atDocumentMark then c.fail "found unexpected document indicator"
    if c.atEnd then c.fail "found unexpected end of stream"
    let (piece, c₁, escaped) ← readQuotedPiece quote (fuel + 1) c []
    if c₁.at? quote then return ⟨ofPieces (piece :: before), c₁.skip 1, false⟩
    let (g, c₂) ← readGap none (fuel + 1) c₁ { Gap.empty with broken := escaped }
    readQuoted quote fuel c₂ (g.folded :: piece :: before)

/-- What becomes of the line breaks at the end of a block scalar. -/
inductive Chomping where
  | strip
  | clip
  | keep
  deriving Repr, DecidableEq

/-- Reads the marks after the `|` or `>` of a block scalar: how the end is
chomped and how far the content is indented, in either order. -/
def readBlockHeader (c : Cursor) : Except Error (Chomping × Nat × Cursor) :=
  let chomp? : Option Char → Option Chomping := fun x =>
    if x == some '+' then some .keep else if x == some '-' then some .strip else none
  let digit? : Option Char → Option Nat := fun x =>
    x.bind fun d => if d.isDigit then some (d.toNat - 48) else none
  let checked : Chomping → Nat → Cursor → Except Error (Chomping × Nat × Cursor) :=
    fun h n c' =>
      if n == 0 then c.fail "found an indentation indicator equal to 0" else .ok (h, n, c')
  match chomp? c.peek, digit? c.peek with
  | some h, _ =>
    match digit? (c.peekAt 1) with
    | some n => checked h n (c.skip 2)
    | none => .ok (h, 0, c.skip 1)
  | none, some n =>
    match chomp? (c.peekAt 1) with
    | some h => checked h n (c.skip 2)
    | none => checked .clip n (c.skip 1)
  | none, none => .ok (.clip, 0, c)

/-- Reads the empty lines of a block scalar and the indentation of the
line after them. With `indent` zero the indentation is not known yet;
`deepest` is the furthest column reached. -/
def readBlockBreaks (indent : Nat) :
    Nat → Cursor → Nat → List Char → Except Error (List Char × Nat × Cursor)
  | 0, c, deepest, breaks => .ok (breaks, deepest, c)
  | fuel + 1, c, deepest, breaks =>
    let room := c.rest.takeWhile (· == ' ')
    let step := if indent == 0 then room.length else min room.length (indent - c.column)
    let c₁ := c.skip step
    let deepest₁ := max deepest c₁.column
    if (indent == 0 || c₁.column < indent) && c₁.at? '\t' then
      c₁.fail "found a tab character where an indentation space is expected"
    else if c₁.peek.any isBreak then
      let (b, c₂) := c₁.readBreak
      readBlockBreaks indent fuel c₂ deepest₁ (breaks ++ b)
    else .ok (breaks, deepest₁, c₁)

/-- The lines of a block scalar read so far. -/
structure BlockState where
  /-- The pieces of the text, the last one in front. -/
  pieces : List (List Char)
  /-- The break that ended the last line. -/
  lineBreak : List Char
  /-- The breaks of the empty lines since. -/
  breaks : List Char
  /-- Whether the last line began with a blank. -/
  indentedFurther : Bool
  deriving Repr

/-- Reads the lines of a block scalar that stand at `indent`. `fuel` bounds
the characters that are left. -/
def readBlockLines (literal : Bool) (indent : Nat) :
    Nat → Cursor → BlockState → Except Error (BlockState × Cursor)
  | 0, c, s => .ok (s, c)
  | fuel + 1, c, s =>
    if c.column != indent || c.atEnd then .ok (s, c)
    else do
      let further := c.peek.any isSpace
      let joint :=
        if !literal && s.lineBreak == ['\n'] && !s.indentedFurther && !further then
          if s.breaks.isEmpty then [' '] else []
        else s.lineBreak
      let (line, c₁) := c.span (fun x => !isBreak x)
      let (lineBreak, c₂) := c₁.readBreak
      let (breaks, _, c₃) ← readBlockBreaks indent (fuel + 1) c₂ 0 []
      readBlockLines literal indent fuel c₃
        ⟨line :: s.breaks :: joint :: s.pieces, lineBreak, breaks, further⟩

/-- Reads a block scalar after its `|` or `>`; `parent` is the column of
the collection around it, -1 at the top, and `fuel` bounds the characters
that are left. -/
def readBlock (literal : Bool) (parent : Int) (fuel : Nat) (c : Cursor) :
    Except Error ScalarText := do
  let (chomping, increment, c₁) ← readBlockHeader c
  let (_, c₂) := c₁.span isSpace
  let (_, c₃) := if c₂.at? '#' then c₂.span (fun x => !isBreak x) else ([], c₂)
  if !c₃.breakOrEndAt 0 then c₃.fail "did not find expected comment or line break"
  let c₄ := c₃.skipBreak
  let given : Nat := if increment == 0 then 0 else (max parent 0).toNat + increment
  let (breaks, deepest, c₅) ← readBlockBreaks given fuel c₄ 0 []
  let indent := if given == 0 then max (max deepest (parent + 1).toNat) 1 else given
  let (s, c₆) ← readBlockLines literal indent fuel c₅ ⟨[], [], breaks, false⟩
  let tail := match chomping with
    | .strip => []
    | .clip => s.lineBreak
    | .keep => s.lineBreak ++ s.breaks
  return ⟨ofPieces (tail :: s.pieces), c₆, true⟩

end ScriptMatrix.Yaml
