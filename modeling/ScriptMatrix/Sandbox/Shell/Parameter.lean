import ScriptMatrix.Sandbox.Shell.Assign
import ScriptMatrix.Sandbox.Shell.Quoting
import ScriptMatrix.Sandbox.Shell.Read.Escape
import ScriptMatrix.Sandbox.Glob

/-!
# `ScriptMatrix.Sandbox.Shell.Parameter`: the values of parameters

A parameter is a variable, an argument, or a sign that stands for
something that the shell knows. Its value is a text or a list of texts,
and from a value others are made: its front is removed, something in it
is replaced, its letters are changed.
-/

set_option autoImplicit false

namespace ScriptMatrix.Sandbox.Shell

/-- What a parameter stands for. -/
inductive Values where
  | missing
  | one (cs : Chars)
  /-- Several texts; with `star` they are one text between quotes. -/
  | many (star : Bool) (texts : List Chars)
  deriving Repr, DecidableEq

namespace Values

/-- Whether there is no value; an empty one may count as none. -/
def lacks (emptyToo : Bool) : Values → Bool
  | .missing => true
  | .one cs => emptyToo && cs.isEmpty
  | .many _ ts => ts.isEmpty || (emptyToo && (joinWith [' '] ts).isEmpty)

/-- The values with each text changed. -/
def map (f : Chars → Chars) : Values → Values
  | .missing => .missing
  | .one cs => .one (f cs)
  | .many star ts => .many star (ts.map f)

end Values

/-- The letters of the options that have one. -/
def optionLetters : List (Char × String) := [
  ('a', "allexport"), ('b', "notify"), ('e', "errexit"), ('f', "noglob"), ('h', "hashall"),
  ('k', "keyword"), ('m', "monitor"), ('n', "noexec"), ('p', "privileged"), ('t', "onecmd"),
  ('u', "nounset"), ('v', "verbose"), ('x', "xtrace"), ('B', "braceexpand"), ('C', "noclobber"),
  ('E', "errtrace"), ('H', "histexpand"), ('P', "physical"), ('T', "functrace")]

/-- The text of an array's elements by keys or numbers, as it is written in
an assignment. -/
def elementsText (es : List (Chars × Chars)) (keyed : Bool) : Chars :=
  let key := fun (k : Chars) =>
    if keyed && (k.isEmpty || !k.all isNameChar) then quoteDouble k else k
  let parts := es.map fun e => ['['] ++ key e.1 ++ [']', '='] ++ quoteDouble e.2
  ['('] ++ joinWith [' '] parts ++ (if keyed && !es.isEmpty then [' '] else []) ++ [')']

/-- The place of a directory as a path. -/
def placeText (place : Location) : Chars :=
  '/' :: joinWith ['/'] (place.map ofText)

namespace Act

/-- The letters of the options that are on. -/
def optionFlags : Act Chars := do
  let p ← process
  let on := optionLetters.filter fun e => p.options.contains e.2
  let implicit : Chars := if p.command then ['c'] else []
  return on.map (·.1) ++ implicit

/-- The names of the functions that are being carried out. -/
def callNames : Act (List Chars) := do
  let p ← process
  let main : List Chars := if p.calls.isEmpty || p.command then [] else ["main".toList]
  return p.calls.map (·.name) ++ main

/-- The variables that the extended dialect keeps itself. -/
def ownContent? (name : Chars) : Act (Option Content) := do
  let p ← process
  let text := fun (cs : Chars) => return some (Content.text cs)
  match String.ofList name with
  | "RANDOM" | "LINENO" => return (← Act.placeText ⟨name, none⟩ fun _ => return 0).map Content.text
  | "SECONDS" => text (digits ((← system).now / 1000))
  | "EPOCHSECONDS" => text (digits (1700000000 + (← system).now / 1000))
  | "BASHPID" => text (digits p.number)
  | "BASH_SUBSHELL" => text (digits p.level)
  | "FUNCNAME" =>
    let names ← callNames
    return if names.isEmpty then none else some (Content.ofList names)
  | "BASH_SOURCE" =>
    return some (Content.ofList ((List.range (p.calls.length + 1)).map fun _ => p.name))
  | "BASH_LINENO" => return some (Content.ofList (p.calls.map (digits ·.line) ++ [['0']]))
  | "PIPESTATUS" => return some (Content.ofList (p.parts.map digits))
  | "DIRSTACK" => return some (Content.ofList (Shell.placeText p.directory :: p.stack))
  | "SHELLOPTS" => text (joinWith [':'] (p.options.map String.toList))
  | _ => return none

/-- The content of a variable. -/
def content? (name : Chars) : Act (Option Content) := do
  match ← if ← isExtended then ownContent? name else pure none with
  | some c => return some c
  | none => return (← lookup? name).bind (·.content)

/-- What a name that is no variable stands for. -/
def sign? (name : Chars) : Act (Option Values) := do
  let p ← process
  match name with
  | ['@'] => return some (.many false p.arguments)
  | ['*'] => return some (.many true p.arguments)
  | ['#'] => return some (.one (digits p.arguments.length))
  | ['?'] => return some (.one (digits p.status))
  | ['-'] => return some (.one (← optionFlags))
  | ['$'] => return some (.one (digits p.root))
  | ['!'] => return some <| match p.lastJob with
    | some n => .one (digits n)
    | none => .missing
  | c :: _ =>
    if isDigit c then
      let n := numberIn 10 name
      if n == 0 then return some (.one p.name)
      return some <| match p.arguments[n - 1]? with
        | some cs => .one cs
        | none => .missing
    else return none
  | [] => return some .missing

/-- The values of a parameter, where the text of an index is given. -/
def values (name : Chars) (index : Option (Except Bool Chars)) : Act Values := do
  match ← sign? name with
  | some v => return v
  | none =>
    let c ← content? name
    match index, c with
    | _, none =>
      match index with
      | some (.error star) => return .many star []
      | some (.ok key) =>
        let isKeyed := ((← lookup? name).map Variable.isKeyed).getD false
        if !isKeyed then let _ ← evaluate key
        return .missing
      | none => return .missing
    | none, some c => return (c.value?.map Values.one).getD .missing
    | some (.error star), some c => return .many star (c.elements.map (·.2))
    | some (.ok key), some c =>
      let found ← match c with
        | .keyed es => pure (es.lookup key)
        | c => do pure (c.numbered? (← evaluate key))
      return (found.map Values.one).getD .missing

/-- Complains about a parameter without a value, and ends the shell. -/
def refuseUnset {α : Type} (name : Chars) : Act α := do
  complain (name ++ (if ← isExtended then ": unbound variable" else ": parameter not set").toList)
  giveUpShell

end Act

/-- The signs that stand for any text in a replacement. -/
inductive Substitute where
  | char (c : Char)
  /-- What has been matched. -/
  | hit
  deriving Repr, DecidableEq

/-- The text that a replacement makes of what has been matched. -/
def Substitute.fill (hit : Chars) (new : List Substitute) : Chars :=
  new.flatMap fun
    | .char c => [c]
    | .hit => hit

/-- A text with every match replaced; matches do not overlap, and an empty
one is none. -/
def replaceAll (fold : Bool) (p : List Glob) (new : List Substitute) (cs : Chars) : Chars :=
  let text := cs.toArray
  let rec go : Nat → Nat → Chars
    | 0, n => cs.drop n
    | fuel + 1, n =>
      match text[n]? with
      | none => []
      | some c =>
        match Glob.longestAt? fold p text n with
        | some e =>
          if n < e then Substitute.fill ((cs.drop n).take (e - n)) new ++ go fuel e
          else c :: go fuel (n + 1)
        | none => c :: go fuel (n + 1)
  go (cs.length + 1) 0

/-- A text with what matches a pattern replaced, at the spot that is asked
for. -/
def replaceIn (fold : Bool) (spot : Spot) (p : List Glob) (new : List Substitute) (cs : Chars) :
    Chars :=
  let text := cs.toArray
  let swap := fun (n e : Nat) =>
    cs.take n ++ Substitute.fill ((cs.drop n).take (e - n)) new ++ cs.drop e
  match spot with
  | .everywhere =>
    if cs.isEmpty && Glob.fits fold p [] && !p.isEmpty then Substitute.fill [] new
    else replaceAll fold p new cs
  | .first =>
    if p.isEmpty then cs
    else match Glob.firstMatch? fold p text 0 with
      | some (n, e) => swap n e
      | none => cs
  | .front =>
    match Glob.longestAt? fold p text 0 with
    | some e => swap 0 e
    | none => cs
  | .back =>
    match (List.range (cs.length + 1)).find? fun n =>
        (Glob.endsOfAll fold text [n] p).contains cs.length with
    | some n => swap n cs.length
    | none => cs

/-- A text with the letters changed that match, only the first one or
all. -/
def changeCase (how : LetterCase) (all : Bool) (p : List Glob) (cs : Chars) : Chars :=
  let one := fun (c : Char) =>
    if p.isEmpty || Glob.fits false p [c] then how.apply [c] else [c]
  if all then cs.flatMap one else (cs.take 1).flatMap one ++ cs.drop 1

/-- The part of a text from an offset on, as long as is asked for; a
negative number counts from the end. None if it would end before it
begins. -/
def partOf? (cs : Chars) (offset : Int) (length : Option Int) : Option Chars :=
  let n : Int := cs.length
  let start := if offset < 0 then n + offset else offset
  if start < 0 || n < start then some []
  else
    let rest := cs.drop start.toNat
    match length with
    | none => some rest
    | some k =>
      if 0 ≤ k then some (rest.take k.toNat)
      else if n + k < start then none
      else some (rest.take (n + k - start).toNat)

/-- The escapes of a text, as between quotes behind a dollar sign. -/
def readEscapes (cs : Chars) : Chars := unescapeDollar (cs.length + 1) cs

/-- What a letter makes of a value. -/
def transform (letter : Char) (cs : Chars) : Chars :=
  match letter with
  | 'Q' | 'K' | 'k' => quoteReusable cs
  | 'U' => cs.map toUpper
  | 'u' => (cs.take 1).map toUpper ++ cs.drop 1
  | 'L' => cs.map toLower
  | 'E' => readEscapes cs
  | _ => cs

end ScriptMatrix.Sandbox.Shell
