import ScriptMatrix.Sandbox.Program.Basic

/-!
# `ScriptMatrix.Sandbox.Program.Lines`: programs that pass on lines

These programs read text and write parts of it, in another order, or with
something added.
-/

set_option autoImplicit false

namespace ScriptMatrix.Sandbox.Program

open Sandbox.Shell

/-- Numbers lines, from a number on; the next number as well. -/
def numberLines (skipsEmpty : Bool) (start : Nat) (lines : List Chars) : List Chars × Nat :=
  let (done, n) := lines.foldl (fun ((done, n) : List Chars × Nat) line =>
    if skipsEmpty && line == ['\n'] then (line :: done, n)
    else
      let ds := digits n
      ((List.replicate (6 - ds.length) ' ' ++ ds ++ ['\t'] ++ line) :: done, n + 1)) ([], start)
  (done.reverse, n)

/-- A text with its invisible characters written out. -/
def spellOut (tabs others : Bool) (cs : Chars) : Chars :=
  cs.flatMap fun c =>
    let n := c.toNat
    if c == '\t' then if tabs then ['^', 'I'] else [c]
    else if c == '\n' then [c]
    else if !others then [c]
    else if n < 32 then ['^', Char.ofNat (n + 64)]
    else if n == 127 then ['^', '?']
    else if n < 128 then [c]
    else
      let low := n - 128
      ['M', '-'] ++
        (if low < 32 then ['^', Char.ofNat (low + 64)]
        else if low == 127 then ['^', '?'] else [Char.ofNat low])

/-- Shows files one behind another. -/
def cat : Body := fun args => do
  let args := shorten [("number", 'n'), ("number-nonblank", 'b'), ("squeeze-blank", 's'),
    ("show-all", 'A'), ("show-ends", 'E'), ("show-tabs", 'T'), ("show-nonprinting", 'v')] args
  match Options.readAnywhere "nbsAETvuet" "" args with
  | .error t => complainOptions "cat" 1 t
  | .ok o =>
    let (inputs, status) ← readInputs "cat" o.arguments 1
    let text := (inputs.map (·.2)).flatten
    let all := o.has 'A'
    let lines := linesOf text
    let lines := if o.has 's' then
        (lines.foldl (fun (done : List Chars) l =>
          if l == ['\n'] && done.head? == some ['\n'] then done else l :: done) []).reverse
      else lines
    let lines := lines.map (spellOut (all || o.has 'T' || o.has 't')
      (all || o.has 'v' || o.has 'e' || o.has 't'))
    let lines := if all || o.has 'E' || o.has 'e' then
        lines.map fun l => if l.getLast? == some '\n' then l.dropLast ++ ['$', '\n'] else l
      else lines
    let lines := if o.has 'b' then (numberLines true 1 lines).1
      else if o.has 'n' then (numberLines false 1 lines).1 else lines
    match ← Act.write? 1 lines.flatten with
    | none => return status
    | some reason =>
      complain "cat" ("write error: ".toList ++ reason.toList)
      return 1

/-- A count with its sign, and what multiplies it. -/
def readCount? (cs : Chars) : Option (Option Char × Nat) :=
  let (sign, body) := match cs with
    | '-' :: rest => (some '-', rest)
    | '+' :: rest => (some '+', rest)
    | _ => (none, cs)
  let ds := body.takeWhile isDigit
  let unit := match body.drop ds.length with
    | [] => some 1
    | ['b'] => some 512
    | ['k'] | ['K'] => some 1024
    | ['M'] => some 1048576
    | _ => none
  if ds.isEmpty then none else unit.map fun u => (sign, numberIn 10 ds * u)

/-- Old spellings of counts: a number itself is an option. -/
def modernCount (args : List Chars) : List Chars :=
  match args with
  | ('-' :: c :: cs) :: rest =>
    if isDigit c then
      let ds := (c :: cs).takeWhile isDigit
      let letters := (c :: cs).drop ds.length
      (if letters.contains 'c' then ['-', 'c'] else ['-', 'n']) :: ds :: rest
    else args
  | _ => args

/-- The front of a text. -/
def headOf (bytes : Bool) (sign : Option Char) (n : Nat) (cs : Chars) : Chars :=
  if bytes then if sign == some '-' then cs.take (cs.length - n) else cs.take n
  else
    let lines := linesOf cs
    (if sign == some '-' then lines.take (lines.length - n) else lines.take n).flatten

/-- The end of a text. -/
def tailOf (bytes : Bool) (sign : Option Char) (n : Nat) (cs : Chars) : Chars :=
  if bytes then if sign == some '+' then cs.drop (n - 1) else cs.drop (cs.length - n)
  else
    let lines := linesOf cs
    (if sign == some '+' then lines.drop (n - 1) else lines.drop (lines.length - n)).flatten

/-- Shows a part of files, each with its name above if there are
several. -/
def partOfFiles (name : String) (part : Bool → Option Char → Nat → Chars → Chars) : Body :=
  fun args => do
  let args := shorten [("lines", 'n'), ("bytes", 'c'), ("quiet", 'q'), ("silent", 'q'),
    ("verbose", 'v')] (modernCount args)
  match Options.readAnywhere "qvfFz" "ncs" args with
  | .error t => complainOptions name 1 t
  | .ok o =>
    let bytes := match o.letters.reverse.find? fun e => e.1 == 'n' || e.1 == 'c' with
      | some (c, _) => c == 'c'
      | none => false
    let given := (if bytes then o.value? 'c' else o.value? 'n').getD "10".toList
    match readCount? given with
    | none =>
      complain name ((if bytes then "invalid number of bytes: " else
        "invalid number of lines: ").toList ++ quoted given)
      return 1
    | some (sign, n) =>
      let files := o.arguments
      if name == "head" && (files.isEmpty || files == [['-']]) && sign.isNone then
        -- What is not shown can still be read by others.
        let text ← Act.takeAll 0
        let shown := part bytes sign n text
        Act.putBack 0 (text.length - shown.length)
        Act.write 1 shown
        return 0
      let (inputs, status) ← readInputs name files 1
      let titled := (1 < files.length || o.has 'v') && !o.has 'q'
      let mut isFirst := true
      for (path, text) in inputs do
        if titled then
          let title := if path == ['-'] then "standard input".toList else path
          Act.write 1
            ((if isFirst then [] else ['\n']) ++ "==> ".toList ++ title ++ " <==\n".toList)
        isFirst := false
        Act.write 1 (part bytes sign n text)
      return status

/-- Shows the front of files. -/
def head : Body := partOfFiles "head" headOf

/-- Shows the end of files. -/
def tail : Body := fun args =>
  let args := match args with
    | ('+' :: cs) :: rest => if cs.all isDigit then ['-', 'n'] :: ('+' :: cs) :: rest else args
    | _ => args
  partOfFiles "tail" tailOf args

/-- Shows lines in reverse order. -/
def tac : Body := fun args => do
  let (inputs, status) ← readInputs "tac" args 1
  for (_, text) in inputs do
    Act.write 1 (linesOf text).reverse.flatten
  return status

/-- Shows lines with their characters in reverse order. -/
def rev : Body := fun args => do
  let (text, status) ← readWhole "rev" args 1
  Act.write 1 ((linesOf text).flatMap fun l =>
    if l.getLast? == some '\n' then l.dropLast.reverse ++ ['\n'] else l.reverse)
  return status

/-- Shows lines with numbers. -/
def nl : Body := fun args => do
  match Options.readAnywhere "p" "bwsvnfhidl" args with
  | .error t => complainOptions "nl" 1 t
  | .ok o =>
    let (text, status) ← readWhole "nl" o.arguments 1
    let all := (o.value? 'b') == some ['a']
    let width := ((o.value? 'w').bind natural?).getD 6
    let gap := (o.value? 's').getD ['\t']
    let start := ((o.value? 'v').bind natural?).getD 1
    let (lines, _) := (bareLines text).foldl (fun ((done, n) : List Chars × Nat) l =>
      if l.isEmpty && !all then
        (List.replicate (width + gap.length) ' ' :: done, n)
      else
        let ds := digits n
        ((List.replicate (width - ds.length) ' ' ++ ds ++ gap ++ l) :: done, n + 1)) ([], start)
    Act.write 1 (unlines lines.reverse)
    return status

/-- Writes its input to files as well. -/
def tee : Body := fun args => do
  match Options.readAnywhere "aip" "" (shorten [("append", 'a')] args) with
  | .error t => complainOptions "tee" 1 t
  | .ok o =>
    let text ← Act.takeAll 0
    Act.write 1 text
    let mut status := 0
    for path in o.arguments do
      let mode : OpenMode := if o.has 'a' then { writes := true, appends := true }
        else { writes := true, truncates := true }
      match ← Act.openPath path mode with
      | .ok n => let _ ← Act.writeOpened n text
      | .error reason =>
        complain "tee" (path ++ ": ".toList ++ reason.toList)
        status := 1
    return status

/-- The number of words in a text. -/
def countWords (cs : Chars) : Nat :=
  (cs.foldl (fun ((n, inside) : Nat × Bool) c =>
    if isSpace c then (n, false) else if inside then (n, true) else (n + 1, true)) (0, false)).1

/-- Whether a stream leads to a file. -/
def leadsToFile (stream : Nat) : Act Bool := do
  match ← Act.openNumber? stream with
  | none => return false
  | some n =>
    match ← Act.opened? n with
    | some { channel := .file _, .. } => return true
    | _ => return false

/-- Counts lines, words and bytes. -/
def wc : Body := fun args => do
  let args := shorten [("lines", 'l'), ("words", 'w'), ("bytes", 'c'), ("chars", 'm'),
    ("max-line-length", 'L')] args
  match Options.readAnywhere "lwcmL" "" args with
  | .error t => complainOptions "wc" 1 t
  | .ok o =>
    let fromFile ← leadsToFile 0
    let (inputs, status) ← readInputs "wc" o.arguments 1
    let letters := o.letters.map (·.1)
    let asked := ['l', 'w', 'm', 'c', 'L'].filter fun c =>
      if letters.isEmpty then c == 'l' || c == 'w' || c == 'c' else letters.contains c
    let count := fun (cs : Chars) (c : Char) => match c with
      | 'l' => cs.count '\n'
      | 'w' => countWords cs
      | 'L' => (bareLines cs).foldl (fun n l => max n l.length) 0
      | _ => cs.length
    let size := (inputs.map fun e => e.2.length).foldl (· + ·) 0
    let piped := (o.arguments.isEmpty || o.arguments.contains ['-']) && !fromFile
    let isSole := asked.length == 1 && o.arguments.length ≤ 1
    let width := if isSole then 1 else if piped then 7 else (digits size).length
    let row := fun (ns : List Nat) (name : Chars) =>
      let cells := ns.map fun n => List.replicate (width - (digits n).length) ' ' ++ digits n
      joinWith [' '] cells ++ (if name.isEmpty then [] else ' ' :: name) ++ ['\n']
    for (path, cs) in inputs do
      Act.write 1 (row (asked.map (count cs)) (if o.arguments.isEmpty then [] else path))
    if 1 < o.arguments.length then
      let totals := asked.map fun c =>
        let ns := inputs.map fun e => count e.2 c
        if c == 'L' then ns.foldl max 0 else ns.foldl (· + ·) 0
      Act.write 1 (row totals "total".toList)
    return status

/-- The ranges of numbers that a list writes: from, and to. -/
def readRanges? (cs : Chars) : Option (List (Nat × Option Nat)) :=
  (splitOn ',' cs).mapM fun r =>
    match splitOn '-' r with
    | [a] => (natural? a).map fun n => (n, some n)
    | [a, b] =>
      let low := if a.isEmpty then some 1 else natural? a
      let high := if b.isEmpty then some none else (natural? b).map some
      match low, high with
      | some l, some h => if a.isEmpty && b.isEmpty then none else some (l, h)
      | _, _ => none
    | _ => none

/-- Shows parts of lines. -/
def cut : Body := fun args => do
  let args := shorten [("delimiter", 'd'), ("fields", 'f'), ("characters", 'c'), ("bytes", 'b'),
    ("only-delimited", 's')] args
  match Options.readAnywhere "sn" "dfcb" args with
  | .error t => complainOptions "cut" 1 t
  | .ok o =>
    let lists := o.letters.filter fun e => e.1 == 'f' || e.1 == 'c' || e.1 == 'b'
    match lists with
    | [] =>
      complain "cut" "you must specify a list of bytes, characters, or fields".toList
      return 1
    | (kind, list) :: _ =>
      match readRanges? list with
      | none =>
        complain "cut" ("invalid field value ".toList ++ quoted list)
        return 1
      | some ranges =>
        let (text, status) ← readWhole "cut" o.arguments 1
        let chosen := fun (n : Nat) => ranges.any fun r => r.1 ≤ n && r.2.all (n ≤ ·)
        let keep := fun {α : Type} (xs : List α) =>
          ((List.range xs.length).zip xs).filterMap fun (i, x) =>
            if chosen (i + 1) then some x else none
        let delimiter := ((o.value? 'd').bind List.head?).getD '\t'
        for line in bareLines text do
          if kind == 'f' then
            let fields := splitOn delimiter line
            if fields.length == 1 then
              if !o.has 's' then Act.write 1 (line ++ ['\n'])
            else Act.write 1 (joinWith [delimiter] (keep fields) ++ ['\n'])
          else Act.write 1 (keep line ++ ['\n'])
        return status

/-- Shows the lines of files side by side. -/
def paste : Body := fun args => do
  match Options.readAnywhere "s" "d" args with
  | .error t => complainOptions "paste" 1 t
  | .ok o =>
    let delimiters := unescapeDollar 100 ((o.value? 'd').getD ['\t'])
    let (inputs, status) ← readInputs "paste" o.arguments 1
    let columns := inputs.map fun e => bareLines e.2
    let join := fun (cells : List Chars) =>
      (((List.range cells.length).zip cells).map fun (i, cell) =>
        if i == 0 then cell
        else (delimiters[(i - 1) % max 1 delimiters.length]?).toList ++ cell).flatten
    if o.has 's' then
      for lines in columns do Act.write 1 (join lines ++ ['\n'])
    else
      let height := columns.foldl (fun n c => max n c.length) 0
      for i in List.range height do
        Act.write 1 (join (columns.map fun column => (column[i]?).getD []) ++ ['\n'])
    return status

/-- Cuts lines to a width. -/
def fold : Body := fun args => do
  match Options.readAnywhere "bs" "w" args with
  | .error t => complainOptions "fold" 1 t
  | .ok o =>
    let width := max 1 (((o.value? 'w').bind natural?).getD 80)
    let (text, status) ← readWhole "fold" o.arguments 1
    let rec pieces : Nat → Chars → List Chars
      | 0, cs => [cs]
      | fuel + 1, cs =>
        if cs.length ≤ width then [cs] else cs.take width :: pieces fuel (cs.drop width)
    for line in bareLines text do
      Act.write 1 (unlines (pieces line.length line))
    return status

end ScriptMatrix.Sandbox.Program
