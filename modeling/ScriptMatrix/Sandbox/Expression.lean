import ScriptMatrix.Sandbox.Glob

/-!
# `ScriptMatrix.Sandbox.Expression`: regular expressions of programs

The programs of a machine know regular expressions in two spellings. In
the basic one groups, bounds and alternatives are written with
backslashes, in the extended one without. Of all matches the one counts
that begins first, and of those the longest.
-/

set_option autoImplicit false

namespace ScriptMatrix.Sandbox

/-- A regular expression. -/
inductive Expression where
  | char (c : Char)
  | one
  | set (negated : Bool) (items : List GlobItem)
  | front
  | back
  /-- A place next to a letter or digit on one side alone, or anywhere
  else. -/
  | edge (inside : Bool)
  | wordFront
  | wordBack
  | group (n : Nat) (e : Expression)
  | sequence (es : List Expression)
  | choice (es : List Expression)
  | repeated (low : Nat) (high : Option Nat) (e : Expression)
  /-- The text of a group once more. -/
  | again (n : Nat)

namespace Expression

/-- How an expression is spelt. -/
inductive Spelling where
  | basic
  | extended
  deriving Repr, DecidableEq

/-- What is still to be read, and how many groups there were. -/
structure Reading where
  rest : List GlobChar
  groups : Nat

/-- A step in reading an expression; it fails where there is none. -/
abbrev Read := StateT Reading Option

/-- Passes over so many characters. -/
def drop (n : Nat) : Read Unit := modify fun s => { s with rest := s.rest.drop n }

/-- A sign of a spelling: in the basic one behind a backslash. -/
def sign (s : Spelling) (c : Char) : List GlobChar :=
  match s with
  | .extended => [(c, false)]
  | .basic => [('\\', false), (c, false)]

/-- Whether a sign comes next. -/
def atSign (s : Spelling) (c : Char) : Read Bool :=
  return (sign s c).isPrefixOf (← get).rest

/-- Passes over a sign, if it comes next. -/
def bumpSign (s : Spelling) (c : Char) : Read Bool := do
  if ← atSign s c then
    drop (sign s c).length
    return true
  else return false

/-- A bound in braces. -/
def bound : Read (Nat × Option Nat) := do
  let number : Read (Option Nat) := do
    let ds := ((← get).rest.map (·.1)).takeWhile isDigit
    drop ds.length
    return if ds.isEmpty then none else some (numberIn 10 ds)
  let low ← number
  if (← get).rest.head?.map (·.1) == some ',' then
    drop 1
    return (low.getD 0, ← number)
  else
    let some n := low | failure
    return (n, some n)

/-- Reads how often what has been read may come. -/
def bounds (s : Spelling) : Nat → Expression → Read Expression
  | 0, e => return e
  | fuel + 1, e => do
    match (← get).rest with
    | ('*', false) :: _ =>
      drop 1
      bounds s fuel (.repeated 0 none e)
    | _ =>
      if ← bumpSign s '+' then bounds s fuel (.repeated 1 none e)
      else if ← bumpSign s '?' then bounds s fuel (.repeated 0 (some 1) e)
      else if ← bumpSign s '\x7b' then
        let (low, high) ← bound
        if !(← bumpSign s '\x7d') then failure
        bounds s fuel (.repeated low high e)
      else return e

/-- What a letter behind a backslash stands for. -/
def escaped (c : Char) : Expression :=
  let word := GlobItem.cls isNameChar
  let space := GlobItem.cls isSpace
  match c with
  | 'w' => .set false [word]
  | 'W' => .set true [word]
  | 's' => .set false [space]
  | 'S' => .set true [space]
  | 'b' => .edge true
  | 'B' => .edge false
  | '<' => .wordFront
  | '>' => .wordBack
  | c => if isDigit c && c != '0' then .again (c.toNat - 48) else .char c

mutual

/-- Reads alternatives. -/
def readChoice (s : Spelling) : Nat → Nat → Read Expression
  | 0, _ => failure
  | fuel + 1, depth => do
    let first ← readSequence s fuel depth true
    if ← bumpSign s '|' then
      match ← readChoice s fuel depth with
      | .choice es => return .choice (first :: es)
      | e => return .choice [first, e]
    else return first

/-- Reads expressions one behind another. -/
def readSequence (s : Spelling) : Nat → Nat → Bool → Read Expression
  | 0, _, _ => failure
  | fuel + 1, depth, isFirst => do
    let rest := (← get).rest
    if rest.isEmpty || (← atSign s '|') then return .sequence []
    if 0 < depth && (← atSign s ')') then return .sequence []
    let e ← readOne s fuel depth isFirst
    let isFront := match e with
      | .front => s == .basic
      | _ => false
    let e ← if isFront then pure e else bounds s 8 e
    match ← readSequence s fuel depth isFront with
    | .sequence es => return .sequence (e :: es)
    | other => return .sequence [e, other]

/-- Reads a single expression. -/
def readOne (s : Spelling) : Nat → Nat → Bool → Read Expression
  | 0, _, _ => failure
  | fuel + 1, depth, isFirst => do
    if ← bumpSign s '(' then
      let n := (← get).groups + 1
      modify fun r => { r with groups := n }
      let e ← readChoice s fuel (depth + 1)
      if !(← bumpSign s ')') then failure
      return .group n e
    match (← get).rest with
    | [] => failure
    | (c, true) :: _ =>
      drop 1
      return .char c
    | (c, false) :: rest =>
      drop 1
      if c == '.' then return .one
      else if c == '[' then
        let some (.set negated items, after) := Glob.readBrackets? rest | failure
        modify fun r => { r with rest := after }
        return .set negated items
      else if c == '^' && (s == .extended || isFirst) then return .front
      else if c == '$' then
        let after ← get
        let closes := after.rest.isEmpty || (← atSign s '|') || (← atSign s ')')
        return if s == .extended || closes then .back else .char c
      else if c == '\\' then
        match rest with
        | [] => failure
        | (d, _) :: _ =>
          drop 1
          return escaped d
      else if c == '*' && !isFirst then failure
      else if s == .extended && (c == '*' || c == '+' || c == '?') then
        if isFirst then return .char c else failure
      else return .char c

end

/-- The expression of characters and how many groups it has, if it is
one. -/
def read? (s : Spelling) (cs : List GlobChar) : Option (Expression × Nat) := do
  let (e, r) ← (readChoice s (4 * cs.length + 8) 0).run ⟨cs, 0⟩
  if r.rest.isEmpty then return (e, r.groups) else none

/-! ### Matching -/

/-- The groups that have matched, by number: from where to where. -/
abbrev Groups := List (Nat × Nat × Nat)

/-- A way on from a place. -/
abbrev Next := Nat → Groups → Option (Nat × Groups)

/-- A text to look for matches in. -/
structure Subject where
  text : Array Char
  fold : Bool

/-- Whether a letter or digit stands at a place. -/
def Subject.isWordAt (s : Subject) (n : Nat) : Bool := (s.text[n]?).any isNameChar

/-- Whether a letter or digit stands before a place. -/
def Subject.isWordBefore (s : Subject) (n : Nat) : Bool := 0 < n && s.isWordAt (n - 1)

/-- The first way, in order of preference, on which an expression matches
from a place and what follows succeeds. -/
def go (s : Subject) : Nat → Expression → Nat → Groups → Next → Option (Nat × Groups)
  | 0, _, _, _, _ => none
  | fuel + 1, e, n, groups, next =>
    let test := fun (holds : Bool) => if holds then next n groups else none
    let same := fun (c d : Char) => c == d || (s.fold && toLower c == toLower d)
    match e with
    | .char c => if (s.text[n]?).any (same c) then next (n + 1) groups else none
    | .one => if n < s.text.size then next (n + 1) groups else none
    | .set negated items =>
      match s.text[n]? with
      | some d =>
        if items.any (GlobItem.has s.fold d) != negated then next (n + 1) groups else none
      | none => none
    | .front => test (n == 0)
    | .back => test (n == s.text.size)
    | .edge inside => test ((s.isWordAt n != s.isWordBefore n) == inside)
    | .wordFront => test (s.isWordAt n && !s.isWordBefore n)
    | .wordBack => test (!s.isWordAt n && s.isWordBefore n)
    | .group k e =>
      go s fuel e n groups fun m groups =>
        next m ((k, n, m) :: groups.filter (·.1 != k))
    | .sequence [] => next n groups
    | .sequence (e :: es) =>
      go s fuel e n groups fun m groups => go s fuel (.sequence es) m groups next
    | .choice [] => none
    | .choice (e :: es) =>
      (go s fuel e n groups next).orElse fun _ => go s fuel (.choice es) n groups next
    | .repeated low high e =>
      let more := fun (_ : Unit) =>
        go s fuel e n groups fun m groups =>
          if m == n && low == 0 then none
          else go s fuel (.repeated (low - 1) (high.map (· - 1)) e) m groups next
      if high == some 0 then next n groups
      else if 0 < low then more ()
      else (more ()).orElse fun _ => next n groups
    | .again k =>
      match groups.lookup k with
      | some (a, b) =>
        let length := b - a
        let matched := (List.range length).all fun i =>
          match s.text[a + i]?, s.text[n + i]? with
          | some c, some d => same c d
          | _, _ => false
        if matched then next (n + length) groups else none
      | none => none

/-- How many steps a match may take in depth. -/
def fuelFor (text : Array Char) : Nat := 8 * text.size + 4096

/-- The longest match from a place: where it ends, and its groups. Each
round looks for one that ends further on. -/
def longestFrom (s : Subject) (e : Expression) (n : Nat) : Nat → Option (Nat × Groups) →
    Option (Nat × Groups)
  | 0, best => best
  | fuel + 1, best =>
    let accepts : Next := fun m groups =>
      if best.all fun b => b.1 < m then some (m, groups) else none
    match go s (fuelFor s.text) e n [] accepts with
    | some better =>
      if better.1 == s.text.size then some better else longestFrom s e n fuel (some better)
    | none => best

/-- The first match from a place on: where it begins and ends, and its
groups. -/
def find? (fold : Bool) (e : Expression) (cs : Chars) (from' : Nat) :
    Option (Nat × Nat × Groups) :=
  let s : Subject := ⟨cs.toArray, fold⟩
  ((List.range (cs.length + 1 - from')).map (from' + ·)).findSome? fun n =>
    (longestFrom s e n (cs.length + 2) none).map fun (m, groups) => (n, m, groups)

end Expression

end ScriptMatrix.Sandbox
