import ScriptMatrix.Sandbox.Expression
import ScriptMatrix.Sandbox.Program.Lines

/-!
# `ScriptMatrix.Sandbox.Program.Search`: finding lines

Lines are chosen that match one of several patterns: regular expressions
in either spelling, or texts that stand for themselves.
-/

set_option autoImplicit false

namespace ScriptMatrix.Sandbox.Program

open Sandbox.Shell

/-- The way in which patterns are written. -/
inductive PatternKind where
  | basic
  | extended
  | fixed
  deriving DecidableEq

/-- A pattern of a kind, if it is one. -/
def readPattern? (kind : PatternKind) (cs : Chars) : Option Expression :=
  match kind with
  | .fixed => some (.sequence (cs.map Expression.char))
  | .basic => (Expression.read? .basic (cs.map fun c => (c, false))).map (·.1)
  | .extended => (Expression.read? .extended (cs.map fun c => (c, false))).map (·.1)

/-- The matches of patterns in a line: where they begin and end. -/
def matchesIn (fold whole word : Bool) (ps : List Expression) (line : Chars) : Nat → Nat →
    List (Nat × Nat)
  | 0, _ => []
  | fuel + 1, from' =>
    let text := line.toArray
    let found := ps.filterMap fun p => Expression.find? fold p line from'
    let isWord := fun (n : Nat) => (text[n]?).any isNameChar
    let fits := fun (a b : Nat) =>
      (!whole || (a == 0 && b == line.length)) &&
      (!word || ((a == 0 || !isWord (a - 1)) && !isWord b))
    let best := found.foldl (fun (best : Option (Nat × Nat)) (a, b, _) =>
      match best with
      | none => some (a, b)
      | some (x, y) => if a < x || (a == x && y < b) then some (a, b) else best) none
    match best with
    | none => []
    | some (a, b) =>
      let next := if b == a then a + 1 else b
      let rest := fun (_ : Unit) =>
        if line.length < next then [] else matchesIn fold whole word ps line fuel next
      if fits a b then (a, b) :: rest ()
      else if line.length < a + 1 then []
      else matchesIn fold whole word ps line fuel (a + 1)

/-- What is to be found and shown. -/
structure SearchOptions where
  patterns : List Expression
  fold : Bool
  whole : Bool
  word : Bool
  inverted : Bool

/-- Whether a line is chosen. -/
def SearchOptions.chooses (s : SearchOptions) (line : Chars) : Bool :=
  let ps := if s.whole then
      s.patterns.map fun p => Expression.sequence [.front, p, .back]
    else s.patterns
  let found := (matchesIn s.fold s.whole s.word ps line (line.length + 2) 0) != []
  found != s.inverted

/-- The files below paths, where those are directories. -/
def filesBelow (t : Tree) (path : Chars) : List Chars :=
  match t.walk (pathOf path) with
  | .error _ => [path]
  | .ok place =>
    match t.get? place with
    | some .directory =>
      let inside := t.entries.filterMap fun e =>
        match e.2 with
        | .file _ =>
          if place.isPrefixOf e.1 then
            let names := (e.1.drop place.length).map ofText
            let front := if path.getLast? == some '/' then path else path ++ ['/']
            some (front ++ joinWith ['/'] names)
          else none
        | _ => none
      inOrder inside
    | _ => [path]

/-- Shows lines that match. -/
def grep (kind₀ : PatternKind) : Body := fun args => do
  let args := shorten [("ignore-case", 'i'), ("invert-match", 'v'), ("count", 'c'), ("quiet", 'q'),
    ("silent", 'q'), ("line-number", 'n'), ("only-matching", 'o'), ("extended-regexp", 'E'),
    ("fixed-strings", 'F'), ("basic-regexp", 'G'), ("perl-regexp", 'P'), ("word-regexp", 'w'),
    ("line-regexp", 'x'), ("files-with-matches", 'l'), ("files-without-match", 'L'),
    ("no-messages", 's'), ("no-filename", 'h'), ("with-filename", 'H'), ("max-count", 'm'),
    ("regexp", 'e'), ("recursive", 'r'), ("text", 'a')] args
  match Options.readAnywhere "ivcqnoEFGPwxlLshHraRbz" "emfABC" args with
  | .error t => complainOptions "grep" 2 t
  | .ok o =>
    let kind := match o.letters.reverse.find? fun e => ['E', 'F', 'G', 'P'].contains e.1 with
      | some ('F', _) => PatternKind.fixed
      | some ('G', _) => .basic
      | some _ => .extended
      | none => kind₀
    let given := (o.letters.filter (·.1 == 'e')).map (·.2)
    let fromFile ← match o.value? 'f' with
      | some path => do
        match ← readPath path with
        | .ok cs => pure (bareLines cs)
        | .error _ => pure []
      | none => pure []
    let hasOwn := !given.isEmpty || (o.value? 'f').isSome
    let (texts, files) := if hasOwn then (given ++ fromFile, o.arguments)
      else (o.arguments.take 1, o.arguments.drop 1)
    if !hasOwn && texts.isEmpty then
      Act.write 2 "Usage: grep [OPTION]... PATTERNS [FILE]...\n".toList
      return 2
    match (texts.flatMap (splitOn '\n')).mapM (readPattern? kind) with
    | none =>
      complain "grep" "Invalid regular expression".toList
      return 2
    | some patterns =>
      let search : SearchOptions := ⟨patterns, o.has 'i', o.has 'x', o.has 'w', o.has 'v'⟩
      let recursive := o.has 'r' || o.has 'R'
      let t ← Act.tree
      let files := if recursive then
          (if files.isEmpty then [['.']] else files).flatMap (filesBelow t)
        else files
      let named := (1 < files.length || o.has 'H' || recursive) && !o.has 'h'
      let mut found := false
      let mut status := 0
      for path in if files.isEmpty then [['-']] else files do
        match ← readPath path with
        | .error reason =>
          if !o.has 's' then complain "grep" (path ++ ": ".toList ++ reason.toList)
          status := 2
        | .ok text =>
          let lines := bareLines text
          let numbered := (List.range lines.length).zip lines
          let hits := numbered.filter fun e => search.chooses e.2
          let hits := match (o.value? 'm').bind natural? with
            | some n => hits.take n
            | none => hits
          if !hits.isEmpty then found := true
          let shownName := if path == ['-'] then "(standard input)".toList else path
          let front := fun (i : Nat) (sign : Char) =>
            (if named then shownName ++ [sign] else []) ++
            (if o.has 'n' then digits (i + 1) ++ [sign] else [])
          if o.has 'q' then pure ()
          else if o.has 'l' then
            if !hits.isEmpty then Act.write 1 (shownName ++ ['\n'])
          else if o.has 'L' then
            if hits.isEmpty then Act.write 1 (shownName ++ ['\n'])
          else if o.has 'c' then
            Act.write 1 ((if named then shownName ++ [':'] else []) ++ digits hits.length ++ ['\n'])
          else if o.has 'o' then
            if !o.has 'v' then
              for (i, line) in hits do
                for (a, b) in matchesIn search.fold search.whole search.word patterns line
                    (line.length + 2) 0 do
                  if a < b then
                    Act.write 1 (front i ':' ++ (line.drop a).take (b - a) ++ ['\n'])
          else
            let number := fun (c : Char) => ((o.value? c).bind natural?).getD
              (((o.value? 'C').bind natural?).getD 0)
            let before := number 'B'
            let after := number 'A'
            let context := 0 < before || 0 < after
            let isHit := fun (i : Nat) => hits.any (·.1 == i)
            let mut last : Option Nat := none
            for (i, line) in numbered do
              let near := hits.any fun h => i ≤ h.1 + after && h.1 ≤ i + before
              if near then
                if context && last.any (· + 1 < i) then Act.write 1 "--\n".toList
                Act.write 1 (front i (if isHit i then ':' else '-') ++ line ++ ['\n'])
                last := some i
      if o.has 'q' && found then return 0
      return if status != 0 then status else if found then 0 else 1

end ScriptMatrix.Sandbox.Program
