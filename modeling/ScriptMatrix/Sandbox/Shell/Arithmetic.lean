import ScriptMatrix.Sandbox.Shell.Stream

/-!
# `ScriptMatrix.Sandbox.Shell.Arithmetic`: sums

A sum is read as a tree of operators, tighter ones below, and its value is
taken from the tree. Numbers have sixty-four bits and wrap around. A name
stands for the value of its variable, which in the extended dialect may be
a sum again; operators that need only one side of theirs leave the other
alone.
-/

set_option autoImplicit false

namespace ScriptMatrix.Sandbox.Shell

/-- A variable or one of its elements. -/
structure SumPlace where
  name : Chars
  index : Option Chars
  deriving Repr

/-- A sum. -/
inductive Sum where
  | number (text : Chars)
  | value (place : SumPlace)
  /-- The value that an operator makes of the old one and another, or that
  other alone. -/
  | assign (place : SumPlace) (op : Chars) (e : Sum)
  /-- One more or one less; `after` says that the old value counts. -/
  | step (place : SumPlace) (by' : Int) (after : Bool)
  | unary (op : Char) (e : Sum)
  | binary (op : Chars) (a b : Sum)
  | both (a b : Sum)
  | either (a b : Sum)
  | choice (c a b : Sum)
  deriving Repr

/-- The smallest unit of a sum. -/
inductive SumToken where
  | number (text : Chars)
  | name (place : SumPlace)
  | op (text : Chars)
  deriving Repr

namespace Sum

/-- The operators, longer ones first. -/
def operators : List Chars :=
  ["<<=", ">>=", "**", "<<", ">>", "<=", ">=", "==", "!=", "&&", "||", "+=", "-=", "*=", "/=",
    "%=", "&=", "^=", "|=", "++", "--", "+", "-", "*", "/", "%", "<", ">", "=", "!", "~", "&",
    "^", "|", "?", ":", "(", ")", ","].map String.toList

/-- The text up to the bracket that closes an index, and the rest. -/
def indexText : Nat → Chars → Chars × Chars
  | _, [] => ([], [])
  | depth, c :: cs =>
    if c == ']' && depth == 0 then ([], cs)
    else
      let inner := if c == '[' then depth + 1 else if c == ']' then depth - 1 else depth
      let (front, back) := indexText inner cs
      (c :: front, back)

/-- The operators that are two of one sign, which count as such only next
to a name. -/
def isDouble (op : Chars) : Bool := op == ['+', '+'] || op == ['-', '-']

/-- The tokens of a text. -/
def tokens (extended : Bool) : Nat → Option SumToken → Chars → Option (List SumToken)
  | 0, _, _ => none
  | fuel + 1, before, cs =>
    match cs with
    | [] => some []
    | c :: rest =>
      let also := fun (t : SumToken) (after : Chars) =>
        (tokens extended fuel (some t) after).map (t :: ·)
      if isSpace c then tokens extended fuel before rest
      else if isDigit c then
        let inNumber := fun (d : Char) => isNameChar d || (extended && (d == '#' || d == '@'))
        also (.number (cs.takeWhile inNumber)) (cs.dropWhile inNumber)
      else if isNameStart c then
        let name := cs.takeWhile isNameChar
        match extended, cs.drop name.length with
        | true, '[' :: inside =>
          let (index, after) := indexText 0 inside
          also (.name ⟨name, some index⟩) after
        | _, after => also (.name ⟨name, none⟩) after
      else
        match operators.find? fun op => op.isPrefixOf cs with
        | none => none
        | some op =>
          if isDouble op then
            let nextToName := (match before with
              | some (.name _) => true
              | _ => false) || ((cs.drop 2).dropWhile isSpace).head?.any isNameStart
            if extended && nextToName then also (.op op) (cs.drop 2) else also (.op [c]) rest
          else if !extended && (op == ['*', '*'] || op == [',']) then
            if op == [','] then none else also (.op [c]) rest
          else also (.op op) (cs.drop op.length)

/-- The operators between two sums, by how tightly they bind. -/
def levels : List (List Chars) :=
  [["||"], ["&&"], ["|"], ["^"], ["&"], ["==", "!="], ["<=", ">=", "<", ">"], ["<<", ">>"],
    ["+", "-"], ["*", "/", "%"]].map fun level => level.map String.toList

/-- The operators that assign, and what they make of the old value. -/
def assigning? : Chars → Option Chars
  | ['='] => some []
  | op =>
    let known := ["<<=", ">>=", "+=", "-=", "*=", "/=", "%=", "&=", "^=", "|="].map String.toList
    if known.contains op then some op.dropLast else none

/-- A tree and the tokens behind it. -/
abbrev Parsed := Option (Sum × List SumToken)

mutual

/-- Reads sums one behind another, of which the last one counts. -/
def readAll : Nat → List SumToken → Parsed
  | 0, _ => none
  | fuel + 1, ts => do
    let (a, rest) ← readOne fuel ts
    match rest with
    | .op [','] :: more =>
      let (b, rest) ← readAll fuel more
      return (.binary [','] a b, rest)
    | _ => return (a, rest)

/-- Reads an assignment, a choice, or something tighter. -/
def readOne : Nat → List SumToken → Parsed
  | 0, _ => none
  | fuel + 1, ts => do
    let found := match ts with
      | .name place :: .op op :: rest => (assigning? op).map fun way => (place, way, rest)
      | _ => none
    match found with
    | some (place, way, rest) =>
      let (e, rest) ← readOne fuel rest
      return (.assign place way e, rest)
    | none =>
      let (c, rest) ← readLevel fuel 0 ts
      match rest with
      | .op ['?'] :: more =>
        let (a, rest) ← readAll fuel more
        match rest with
        | .op [':'] :: more =>
          let (b, rest) ← readOne fuel more
          return (.choice c a b, rest)
        | _ => none
      | _ => return (c, rest)

/-- Reads sums between the operators of a level. -/
def readLevel : Nat → Nat → List SumToken → Parsed
  | 0, _, _ => none
  | fuel + 1, level, ts => do
    match levels[level]? with
    | none => readPower fuel ts
    | some ops =>
      let (a, rest) ← readLevel fuel (level + 1) ts
      readMore fuel level ops a rest

/-- Reads what follows a sum on its level. -/
def readMore : Nat → Nat → List Chars → Sum → List SumToken → Parsed
  | 0, _, _, _, _ => none
  | fuel + 1, level, ops, a, ts => do
    match ts with
    | .op op :: rest =>
      if ops.contains op then
        let (b, rest) ← readLevel fuel (level + 1) rest
        let made :=
          if op == ['&', '&'] then Sum.both a b
          else if op == ['|', '|'] then Sum.either a b
          else Sum.binary op a b
        readMore fuel level ops made rest
      else return (a, ts)
    | _ => return (a, ts)

/-- Reads powers, the last of which comes first. -/
def readPower : Nat → List SumToken → Parsed
  | 0, _ => none
  | fuel + 1, ts => do
    let (a, rest) ← readUnary fuel ts
    match rest with
    | .op ['*', '*'] :: more =>
      let (b, rest) ← readPower fuel more
      return (.binary ['*', '*'] a b, rest)
    | _ => return (a, rest)

/-- Reads signs, and what they stand in front of. -/
def readUnary : Nat → List SumToken → Parsed
  | 0, _ => none
  | fuel + 1, ts => do
    match ts with
    | .op ['+', '+'] :: .name place :: rest => return (.step place 1 false, rest)
    | .op ['-', '-'] :: .name place :: rest => return (.step place (-1) false, rest)
    | .op [c] :: rest =>
      if c == '+' || c == '-' || c == '!' || c == '~' then
        let (e, rest) ← readUnary fuel rest
        return (.unary c e, rest)
      else if c == '(' then
        let (e, rest) ← readAll fuel rest
        match rest with
        | .op [')'] :: more => return (e, more)
        | _ => none
      else none
    | .number text :: rest => return (.number text, rest)
    | .name place :: .op ['+', '+'] :: rest => return (.step place 1 true, rest)
    | .name place :: .op ['-', '-'] :: rest => return (.step place (-1) true, rest)
    | .name place :: rest => return (.value place, rest)
    | _ => none

end

/-- The sum that a text writes. In the extended dialect no text at all is
zero. -/
def read? (extended : Bool) (cs : Chars) : Option Sum := do
  let ts ← tokens extended (cs.length + 1) none cs
  if ts.isEmpty && extended then return .number ['0']
  let (e, rest) ← readAll (16 * ts.length + 16) ts
  if rest.isEmpty then return e else none

/-- A number with sixty-four bits. -/
def wrap (i : Int) : Int := i.bmod 18446744073709551616

/-- The value of a digit in a base. -/
def digitValue? (base : Nat) (c : Char) : Option Nat :=
  let v := if isDigit c then some (c.toNat - 48)
    else if 'a' ≤ c && c ≤ 'z' then some (c.toNat - 87)
    else if 'A' ≤ c && c ≤ 'Z' then some (if base ≤ 36 then c.toNat - 55 else c.toNat - 29)
    else if c == '@' then some 62
    else if c == '_' then some 63
    else none
  v.filter (· < base)

/-- The number that digits of a base write, if they all belong to it. -/
def inBase? (base : Nat) (cs : Chars) : Option Int :=
  (cs.foldlM (fun n c => (digitValue? base c).map fun d => wrap (n * base + d)) 0)

/-- The value of a number, which may name its base. -/
def numberValue? (extended : Bool) (cs : Chars) : Option Int :=
  match cs with
  | '0' :: x :: rest =>
    if x == 'x' || x == 'X' then
      if rest.isEmpty && !extended then none else clamp extended (inBase? 16 rest) rest 16
    else if extended && (x :: rest).contains '#' then none
    else clamp extended (inBase? 8 (x :: rest)) (x :: rest) 8
  | _ =>
    match extended, splitOn '#' cs with
    | true, [base, ds] =>
      match natural? base with
      | some b => if 2 ≤ b && b ≤ 64 && !ds.isEmpty then inBase? b ds else none
      | none => none
    | true, [ds] => inBase? 10 ds
    | _, _ => clamp extended (inBase? 10 cs) cs 10
where
  /-- In the plain dialect a number that is too large is the largest one. -/
  clamp (extended : Bool) (v : Option Int) (ds : Chars) (base : Nat) : Option Int :=
    if extended then v
    else v.map fun i => if 9223372036854775807 < numberIn base ds then 9223372036854775807 else i

/-- A power of a number. -/
def power (base : Int) (exponent : Nat) : Int :=
  let step := fun (acc : Int × Int) (bit : Nat) =>
    (if exponent.testBit bit then wrap (acc.1 * acc.2) else acc.1, wrap (acc.2 * acc.2))
  ((List.range 64).foldl step (1, base)).1

/-- The bits of a number. -/
def bits (i : Int) : Nat := (i % 18446744073709551616).toNat

/-- What an operator makes of two numbers, or why it makes nothing. -/
def operate (op : Chars) (a b : Int) : Except String Int :=
  let truth := fun (c : Bool) => (.ok (if c then 1 else 0) : Except String Int)
  match String.ofList op with
  | "+" => .ok (wrap (a + b))
  | "-" => .ok (wrap (a - b))
  | "*" => .ok (wrap (a * b))
  | "/" => if b == 0 then .error "division by 0" else .ok (wrap (a.tdiv b))
  | "%" => if b == 0 then .error "division by 0" else .ok (wrap (a.tmod b))
  | "**" => if b < 0 then .error "exponent less than 0" else .ok (power a b.toNat)
  | "<<" => .ok (wrap (a * Int.pow 2 (bits b % 64)))
  | ">>" => .ok (a.fdiv (Int.pow 2 (bits b % 64)))
  | "<" => truth (a < b)
  | ">" => truth (b < a)
  | "<=" => truth (a ≤ b)
  | ">=" => truth (b ≤ a)
  | "==" => truth (a == b)
  | "!=" => truth (a != b)
  | "&" => .ok (wrap (bits a &&& bits b))
  | "|" => .ok (wrap (bits a ||| bits b))
  | "^" => .ok (wrap (bits a ^^^ bits b))
  | "," => .ok b
  | _ => .ok b

end Sum

namespace Act

/-- Gives up on a sum, with a reason. -/
def refuseSum {α : Type} (text : Chars) (reason : String) : Act α := do
  match (← process).dialect with
  | .extended => complain (text ++ ": ".toList ++ reason.toList)
  | .plain => complain ("arithmetic expression: ".toList ++ reason.toList ++ ": \"".toList ++
      text ++ ['"'])
  giveUp

/-- The text behind a place, given how its index is read as a number. -/
def placeText (place : SumPlace) (number : Chars → Act Int) : Act (Option Chars) := do
  match place.index with
  | none =>
    let p ← process
    if place.name == "LINENO".toList && p.dialect == .extended then return some (digits p.line)
    if place.name == "RANDOM".toList && (← isExtended) then
      let n := ((← system).seed * 1103515245 + 12345) % 2147483648
      alterSystem fun s => { s with seed := n }
      return some (digits (n / 65536))
    text? place.name
  | some index =>
    match (← lookup? place.name).bind (·.content) with
    | none =>
      let _ ← number index
      return none
    | some (.keyed es) => return es.lookup index
    | some c => return c.numbered? (← number index)

/-- Stores a number at a place. -/
def placeStore (place : SumPlace) (number : Chars → Act Int) (i : Int) : Act Unit := do
  let name ← resolve place.name
  let v := (← plainLookup? name).getD {}
  if v.constant then
    complain (name ++ ": readonly variable".toList)
    giveUp
  match place.index with
  | none => store name (v.withText (signedDigits i))
  | some index =>
    if v.isKeyed then store name (v.withKeyed index (signedDigits i))
    else
      let n ← number index
      match ((v.content.getD (.indexed [])).indexOf? n) with
      | some k => store name (v.withNumbered k (signedDigits i))
      | none => refuseSum (place.name ++ ['['] ++ index ++ [']']) "bad array subscript"

mutual

/-- The value of a sum; `text` is how it is written. -/
def sumValue : Nat → Chars → Sum → Act Int
  | 0, text, _ => refuseSum text "expression recursion level exceeded"
  | fuel + 1, text, e => do
    let extended ← isExtended
    match e with
    | .number cs =>
      match Sum.numberValue? extended cs with
      | some i => return i
      | none =>
        if extended then refuseSum text ("value too great for base (error token is \"" ++
          String.ofList cs ++ "\")")
        else refuseSum text "expecting EOF"
    | .value place => placeValue fuel place
    | .assign place op e =>
      let i ← if op.isEmpty then sumValue fuel text e
        else do
          let a ← placeValue fuel place
          let b ← sumValue fuel text e
          operated text op a b
      placeStore place (sumOf fuel) i
      return i
    | .step place by' after =>
      let old ← placeValue fuel place
      let new := Sum.wrap (old + by')
      placeStore place (sumOf fuel) new
      return if after then old else new
    | .unary op e =>
      let i ← sumValue fuel text e
      return match op with
        | '-' => Sum.wrap (-i)
        | '!' => if i == 0 then 1 else 0
        | '~' => -i - 1
        | _ => i
    | .binary op a b =>
      let i ← sumValue fuel text a
      let j ← sumValue fuel text b
      operated text op i j
    | .both a b =>
      if (← sumValue fuel text a) == 0 then return 0
      return if (← sumValue fuel text b) == 0 then 0 else 1
    | .either a b =>
      if (← sumValue fuel text a) != 0 then return 1
      return if (← sumValue fuel text b) == 0 then 0 else 1
    | .choice c a b =>
      if (← sumValue fuel text c) != 0 then sumValue fuel text a else sumValue fuel text b

/-- What an operator makes of two numbers. -/
def operated : Chars → Chars → Int → Int → Act Int
  | text, op, a, b =>
    match Sum.operate op a b with
    | .ok i => return i
    | .error reason => do
      if ← isExtended then refuseSum text reason else refuseSum text "division by zero"

/-- The value of a variable or an element. -/
def placeValue : Nat → SumPlace → Act Int
  | 0, place => refuseSum place.name "expression recursion level exceeded"
  | fuel + 1, place => do
    match ← placeText place (sumOf fuel) with
    | none =>
      if ← isOn "nounset" then
        let reason := if ← isExtended then ": unbound variable" else ": parameter not set"
        complain (place.name ++ reason.toList)
        giveUpShell
      return 0
    | some cs =>
      if ← isExtended then sumOf fuel cs
      else
        let trimmed := ((cs.dropWhile isSpace).reverse.dropWhile isSpace).reverse
        let (negative, ds) := match trimmed with
          | '-' :: ds => (true, ds)
          | '+' :: ds => (false, ds)
          | ds => (false, ds)
        if trimmed.isEmpty then return 0
        match if ds.isEmpty then none else Sum.numberValue? false ds with
        | some i => return if negative then -i else i
        | none =>
          complain ("Illegal number: ".toList ++ cs)
          giveUp

/-- The value of a sum, as it is written. -/
def sumOf : Nat → Chars → Act Int
  | 0, text => refuseSum text "expression recursion level exceeded"
  | fuel + 1, text => do
    let extended ← isExtended
    match Sum.read? extended text with
    | some e => sumValue fuel text e
    | none =>
      if extended then refuseSum text "syntax error in expression"
      else refuseSum text "expecting primary"

end

/-- How deep sums may be nested, in their own text and through
variables. -/
def sumFuel : Nat := 1200

/-- The value of a sum. -/
def evaluate (text : Chars) : Act Int := sumOf sumFuel text

end Act

end ScriptMatrix.Sandbox.Shell
