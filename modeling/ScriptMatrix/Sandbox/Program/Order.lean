import ScriptMatrix.Sandbox.Program.Lines

/-!
# `ScriptMatrix.Sandbox.Program.Order`: programs that compare lines

Lines are sorted by keys, which are parts of them, and compared as text or
as numbers. Where keys are equal the whole lines decide.
-/

set_option autoImplicit false

namespace ScriptMatrix.Sandbox.Program

open Sandbox.Shell

/-- How keys are compared. -/
structure Comparison where
  numeric : Bool := false
  reverse : Bool := false
  fold : Bool := false
  /-- Whether blanks in front do not count. -/
  blanks : Bool := false
  /-- Whether only blanks, letters and digits count. -/
  dictionary : Bool := false
  version : Bool := false

/-- A part of a line: from a field and a character on, up to others. -/
structure SortKey where
  field : Nat
  char : Nat := 1
  lastField : Option Nat := none
  /-- The last character of the last field; none for all of it. -/
  lastChar : Option Nat := none
  comparison : Option Comparison := none

/-- A comparison with the letters added. -/
def Comparison.ofLetters (c : Comparison) (cs : Chars) : Comparison :=
  cs.foldl (fun c l => match l with
    | 'n' | 'g' | 'h' => { c with numeric := true }
    | 'r' => { c with reverse := true }
    | 'f' => { c with fold := true }
    | 'b' => { c with blanks := true }
    | 'd' => { c with dictionary := true }
    | 'V' => { c with version := true }
    | _ => c) c

/-- Reads a key. -/
def SortKey.read? (cs : Chars) : Option SortKey :=
  let part := fun (cs : Chars) =>
    let f := cs.takeWhile isDigit
    let rest := cs.drop f.length
    let (c, rest) := match rest with
      | '.' :: more => (some (numberIn 10 (more.takeWhile isDigit)), more.dropWhile isDigit)
      | _ => (none, rest)
    if f.isEmpty then none else some (numberIn 10 f, c, rest)
  match splitOn ',' cs with
  | [a] => (part a).map fun (f, c, ls) =>
    { field := f, char := c.getD 1
      comparison := if ls.isEmpty then none else some (({} : Comparison).ofLetters ls) }
  | [a, b] => do
    let (f, c, ls) ← part a
    let (g, d, ms) ← part b
    let letters := ls ++ ms
    return {
      field := f, char := c.getD 1, lastField := some g, lastChar := d.filter (· != 0)
      comparison := if letters.isEmpty then none else some (({} : Comparison).ofLetters letters) }
  | _ => none

/-- The fields of a line; without a separator the blanks in front of a
field belong to it. -/
def sortFields (separator : Option Char) (line : Chars) : List Chars :=
  match separator with
  | some c => splitOn c line
  | none =>
    let rec go : Nat → Chars → List Chars
      | 0, _ => []
      | fuel + 1, cs =>
        if cs.isEmpty then []
        else
          let blanks := cs.takeWhile isGap
          let word := (cs.drop blanks.length).takeWhile (!isGap ·)
          (blanks ++ word) :: go fuel (cs.drop (blanks.length + word.length))
    go (line.length + 1) line

/-- The part of a line that a key means. -/
def SortKey.part (separator : Option Char) (k : SortKey) (line : Chars) : Chars :=
  let fields := sortFields separator line
  let between : Chars := separator.toList
  let last := min (k.lastField.getD fields.length) fields.length
  let chosen := (fields.take last).drop (k.field - 1)
  let cut := fun (cs : Chars) => match k.lastField, k.lastChar with
    | some f, some n => if f ≤ fields.length then cs.take n else cs
    | _, _ => cs
  match chosen.reverse with
  | [] => []
  | [only] => (cut only).drop (k.char - 1)
  | final :: before => (joinWith between (before.reverse ++ [cut final])).drop (k.char - 1)

/-- The number at the front of a text, as a sign, a whole part and what
stands behind the point. -/
def leadingNumber (cs : Chars) : Bool × Nat × Chars :=
  let cs := cs.dropWhile isSpace
  let (negative, body) := match cs with
    | '-' :: rest => (true, rest)
    | _ => (false, cs)
  let whole := body.takeWhile isDigit
  let part := match body.drop whole.length with
    | '.' :: more => more.takeWhile isDigit
    | _ => []
  (negative, numberIn 10 whole, (part.reverse.dropWhile (· == '0')).reverse)

/-- Compares texts by the numbers at their fronts. -/
def compareNumbers (a b : Chars) : Ordering :=
  let (s, m, p) := leadingNumber a
  let (t, n, q) := leadingNumber b
  let isZero := fun (n : Nat) (p : Chars) => n == 0 && p.isEmpty
  let size := (compare m n).then
    (if comesBefore p q then .lt else if p == q then .eq else .gt)
  match s && !isZero m p, t && !isZero n q with
  | false, false => size
  | true, true => size.swap
  | true, false => .lt
  | false, true => .gt

/-- Compares texts in which runs of digits count as numbers. -/
def compareVersions : Nat → Chars → Chars → Ordering
  | 0, _, _ => .eq
  | _, [], [] => .eq
  | _, [], _ => .lt
  | _, _, [] => .gt
  | fuel + 1, a :: as, b :: bs =>
    if isDigit a && isDigit b then
      let ds := (a :: as).takeWhile isDigit
      let es := (b :: bs).takeWhile isDigit
      (compare (numberIn 10 ds) (numberIn 10 es)).then
        (compareVersions fuel ((a :: as).drop ds.length) ((b :: bs).drop es.length))
    else (compare a.toNat b.toNat).then (compareVersions fuel as bs)

/-- Compares two keys. -/
def Comparison.compare (c : Comparison) (a b : Chars) : Ordering :=
  let shape := fun (cs : Chars) =>
    let cs := if c.blanks then cs.dropWhile isGap else cs
    let cs := if c.dictionary then cs.filter fun x => isGap x || isLetter x || isDigit x else cs
    if c.fold then cs.map toUpper else cs
  let result :=
    if c.numeric then compareNumbers a b
    else if c.version then compareVersions (a.length + b.length + 1) a b
    else
      let x := shape a
      let y := shape b
      if comesBefore x y then .lt else if x == y then .eq else .gt
  if c.reverse then result.swap else result

/-- Sorts lines. -/
def sort : Body := fun args => do
  let args := shorten [("numeric-sort", 'n'), ("reverse", 'r'), ("unique", 'u'), ("key", 'k'),
    ("field-separator", 't'), ("ignore-case", 'f'), ("output", 'o'), ("stable", 's'),
    ("check", 'c'), ("version-sort", 'V')] args
  match Options.readAnywhere "nrufbdghVscCmMiz" "kto" args with
  | .error t => complainOptions "sort" 2 t
  | .ok o =>
    let main := ({} : Comparison).ofLetters (o.letters.map (·.1))
    match (o.letters.filter (·.1 == 'k')).mapM fun e => SortKey.read? e.2 with
    | none =>
      complain "sort" "invalid field specification".toList
      return 2
    | some keys =>
      let (inputs, status) ← readInputs "sort" o.arguments 2
      if status != 0 then return status
      let lines := inputs.flatMap fun e => bareLines e.2
      let separator := (o.value? 't').bind List.head?
      let byKeys := fun (a b : Chars) =>
        if keys.isEmpty then main.compare a b
        else keys.foldl (fun (r : Ordering) k =>
          r.then ((k.comparison.getD main).compare (k.part separator a) (k.part separator b))) .eq
      let whole := fun (a b : Chars) =>
        let r : Ordering := if comesBefore a b then .lt else if a == b then .eq else .gt
        if main.reverse then r.swap else r
      let order := fun (a b : Chars) =>
        if o.has 's' || o.has 'u' then byKeys a b else (byKeys a b).then (whole a b)
      if o.has 'c' || o.has 'C' then
        let pairs := lines.zip (lines.drop 1)
        match pairs.find? fun (a, b) => order a b == .gt || (o.has 'u' && byKeys a b == .eq) with
        | some (_, b) =>
          if !o.has 'C' then complain "sort" ("-: disorder: ".toList ++ b)
          return 1
        | none => return 0
      let sorted := lines.mergeSort fun a b => order a b != .gt
      let kept := if o.has 'u' then
          (sorted.foldl (fun (done : List Chars) l =>
            if done.head?.any fun before => byKeys before l == .eq then done
            else l :: done) []).reverse
        else sorted
      match o.value? 'o' with
      | some path =>
        match ← Act.openPath path { writes := true, truncates := true } with
        | .ok n => let _ ← Act.writeOpened n (unlines kept)
        | .error reason =>
          complain "sort" ("open failed: ".toList ++ path ++ ": ".toList ++ reason.toList)
          return 2
      | none => Act.write 1 (unlines kept)
      return 0

/-- Runs of lines that are alike, each with its length. -/
def runsOf (same : Chars → Chars → Bool) (lines : List Chars) : List (Chars × Nat) :=
  (lines.foldl (fun (done : List (Chars × Nat)) l =>
    match done with
    | (first, n) :: rest => if same first l then (first, n + 1) :: rest else (l, 1) :: done
    | [] => [(l, 1)]) []).reverse

/-- Shows lines that are alike once. -/
def uniq : Body := fun args => do
  let args := shorten
    [("count", 'c'), ("repeated", 'd'), ("unique", 'u'), ("ignore-case", 'i')] args
  match Options.readAnywhere "cduizD" "fsw" args with
  | .error t => complainOptions "uniq" 1 t
  | .ok o =>
    let (inputs, status) ← readInputs "uniq" (o.arguments.take 1) 1
    if status != 0 then return status
    let number := fun (c : Char) => ((o.value? c).bind natural?).getD 0
    let key := fun (l : Chars) =>
      let l := (List.range (number 'f')).foldl (fun (cs : Chars) _ =>
        (cs.dropWhile isGap).dropWhile (!isGap ·)) l
      let l := l.drop (number 's')
      let l := if (o.value? 'w').isSome then l.take (number 'w') else l
      if o.has 'i' then l.map toLower else l
    let lines := inputs.flatMap fun e => bareLines e.2
    let shown := (runsOf (fun a b => key a == key b) lines).filter fun (_, n) =>
      (!o.has 'd' || 1 < n) && (!o.has 'u' || n == 1)
    let out := shown.map fun (l, n) =>
      if o.has 'c' then
        List.replicate (7 - (digits n).length) ' ' ++ digits n ++ [' '] ++ l
      else l
    match o.arguments[1]? with
    | some path =>
      match ← Act.openPath path { writes := true, truncates := true } with
      | .ok n => let _ ← Act.writeOpened n (unlines out)
      | .error reason =>
        complain "uniq" (path ++ ": ".toList ++ reason.toList)
        return 1
    | none => Act.write 1 (unlines out)
    return 0

/-- The lines of two sorted files in three columns. -/
def commColumns : Nat → List Chars → List Chars → List (Nat × Chars)
  | 0, _, _ => []
  | _, [], bs => bs.map fun b => (2, b)
  | _, as, [] => as.map fun a => (1, a)
  | fuel + 1, a :: as, b :: bs =>
    if a == b then (3, a) :: commColumns fuel as bs
    else if comesBefore a b then (1, a) :: commColumns fuel as (b :: bs)
    else (2, b) :: commColumns fuel (a :: as) bs

/-- Compares sorted files line by line. -/
def comm : Body := fun args => do
  match Options.readAnywhere "123" "" args with
  | .error t => complainOptions "comm" 1 t
  | .ok o =>
    let (inputs, status) ← readInputs "comm" o.arguments 1
    match inputs with
    | [(_, a), (_, b)] =>
      let hides := fun (n : Nat) => o.has (Char.ofNat (48 + n))
      let columns := commColumns (a.length + b.length + 2) (bareLines a) (bareLines b)
      for (n, line) in columns do
        if !hides n then
          let before := ((List.range n).drop 1).filter (!hides ·)
          Act.write 1 (List.replicate before.length '\t' ++ line ++ ['\n'])
      return status
    | _ => return 1

/-- Compares two files byte by byte. -/
def cmp : Body := fun args => do
  match Options.readAnywhere "sl" "" args with
  | .error t => complainOptions "cmp" 2 t
  | .ok o =>
    let (inputs, status) ← readInputs "cmp" o.arguments 2
    match inputs with
    | [(p, a), (q, b)] =>
      if a == b then return 0
      let same := ((a.zip b).takeWhile fun (x, y) => x == y).length
      if !o.has 's' then
        if same == a.length || same == b.length then
          let shorter := if same == a.length then p else q
          complain "cmp" ("EOF on ".toList ++ shorter)
        else
          let line := ((a.take same).count '\n') + 1
          Act.write 1 (p ++ [' '] ++ q ++ " differ: byte ".toList ++ digits (same + 1) ++
            ", line ".toList ++ digits line ++ ['\n'])
      return 1
    | _ => return max status 2

/-- Tells whether two files are the same. -/
def diff : Body := fun args => do
  let (inputs, status) ←
    readInputs "diff" (args.filter fun a => a.head? != some '-' || a == ['-']) 2
  match inputs with
  | [(p, a), (q, b)] =>
    if a == b then return 0
    if args.contains ['-', 'q'] then
      Act.write 1 ("Files ".toList ++ p ++ " and ".toList ++ q ++ " differ\n".toList)
    else
      let as := bareLines a
      let bs := bareLines b
      let front := ((as.zip bs).takeWhile fun (x, y) => x == y).length
      let back := ((as.drop front).reverse.zip (bs.drop front).reverse).takeWhile
        (fun (x, y) => x == y) |>.length
      let gone := (as.drop front).take (as.length - front - back)
      let new := (bs.drop front).take (bs.length - front - back)
      let range := fun (n : Nat) => if n ≤ 1 then digits (front + n)
        else digits (front + 1) ++ [','] ++ digits (front + n)
      let letter : Char := if gone.isEmpty then 'a' else if new.isEmpty then 'd' else 'c'
      Act.write 1 (range gone.length ++ [letter] ++ range new.length ++ ['\n'])
      for l in gone do Act.write 1 ("< ".toList ++ l ++ ['\n'])
      if letter == 'c' then Act.write 1 "---\n".toList
      for l in new do Act.write 1 ("> ".toList ++ l ++ ['\n'])
    return 1
  | _ => return max status 2

end ScriptMatrix.Sandbox.Program
