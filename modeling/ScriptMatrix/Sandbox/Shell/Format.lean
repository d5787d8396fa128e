import ScriptMatrix.Sandbox.Calendar
import ScriptMatrix.Sandbox.Real
import ScriptMatrix.Sandbox.Shell.Quoting
import ScriptMatrix.Sandbox.Shell.Read.Escape
import ScriptMatrix.Sandbox.Shell.Syntax

/-!
# `ScriptMatrix.Sandbox.Shell.Format`: texts in a format

A format is text with directives, each of which takes an argument and
says how to write it. The format is gone through again as long as there
are arguments left; arguments that are missing are empty.
-/

set_option autoImplicit false

namespace ScriptMatrix.Sandbox.Shell

/-- A directive. -/
structure Directive where
  left : Bool := false
  plus : Bool := false
  blank : Bool := false
  alternate : Bool := false
  zeros : Bool := false
  width : Nat := 0
  precision : Option Nat := none
  deriving Repr

/-- How far a format has been carried out. -/
structure Formatting where
  arguments : List Chars
  /-- The output, the last part first. -/
  output : List Chars := []
  complaints : List Chars := []
  status : Nat := 0
  /-- Whether an argument has been taken in this round. -/
  took : Bool := false
  stopped : Bool := false

namespace Formatting

/-- Adds text. -/
def add (f : Formatting) (cs : Chars) : Formatting := { f with output := cs :: f.output }

/-- Adds a complaint. -/
def complain (f : Formatting) (status : Nat) (message : Chars) : Formatting :=
  { f with complaints := f.complaints ++ [message], status := max f.status status }

/-- Takes an argument, if there is one. -/
def take (f : Formatting) : Option Chars × Formatting :=
  match f.arguments with
  | [] => (none, { f with took := true })
  | a :: rest => (some a, { f with arguments := rest, took := true })

end Formatting

/-- Text with a sign in front, filled up to a width. -/
def Directive.pad (d : Directive) (zeros : Bool) (sign body : Chars) : Chars :=
  let missing := d.width - sign.length - body.length
  if d.left then sign ++ body ++ List.replicate missing ' '
  else if zeros then sign ++ List.replicate missing '0' ++ body
  else List.replicate missing ' ' ++ sign ++ body

/-- The sign in front of a number. -/
def Directive.sign (d : Directive) (negative : Bool) : Chars :=
  if negative then ['-'] else if d.plus then ['+'] else if d.blank then [' '] else []

/-- The text of a whole number. -/
def Directive.integer (d : Directive) (conversion : Char) (i : Int) : Chars :=
  let isSigned := conversion == 'd' || conversion == 'i'
  let n := if isSigned then i.natAbs else (i % 18446744073709551616).toNat
  let base := match conversion with
    | 'o' => 8
    | 'x' | 'X' => 16
    | _ => 10
  let ds := Nat.toDigits base n
  let ds := if conversion == 'X' then ds.map toUpper else ds
  let ds := if d.precision == some 0 && n == 0 then [] else ds
  let ds := List.replicate (d.precision.getD 0 - ds.length) '0' ++ ds
  let front : Chars :=
    if isSigned then d.sign (i < 0)
    else if d.alternate && base == 8 && ds.head? != some '0' then ['0']
    else if d.alternate && base == 16 && n != 0 then ['0', conversion]
    else []
  d.pad (d.zeros && d.precision.isNone) front ds

/-- The text of a number with a point. -/
def Directive.real (d : Directive) (conversion : Char) (x : Real) : Chars :=
  let body := x.format conversion d.precision d.alternate
  let isCapital := 'A' ≤ conversion && conversion ≤ 'Z'
  let body := if isCapital then body.map toUpper else body
  d.pad (d.zeros && x.isFinite) (d.sign x.isNegative) body

/-- Text cut to the precision and filled up. -/
def Directive.string (d : Directive) (cs : Chars) : Chars :=
  d.pad false [] (match d.precision with
    | some n => cs.take n
    | none => cs)

/-- The whole number at the front of a text and what is behind it. A number
that begins with zero has another base. -/
def readInteger (cs : Chars) : Option (Int × Chars) :=
  let cs := cs.dropWhile isSpace
  let (negative, body) := match cs with
    | '-' :: rest => (true, rest)
    | '+' :: rest => (false, rest)
    | _ => (false, cs)
  let made := fun (base : Nat) (ds rest : Chars) =>
    let n : Int := numberIn base ds
    some (if negative then -n else n, rest)
  match body with
  | '0' :: x :: rest =>
    let hex := rest.takeWhile fun c => (hexValue? c).isSome
    if (x == 'x' || x == 'X') && !hex.isEmpty then made 16 hex (rest.drop hex.length)
    else
      let octal := (x :: rest).takeWhile isOctal
      made 8 octal ((x :: rest).drop octal.length)
  | _ =>
    let ds := body.takeWhile isDigit
    if ds.isEmpty then none else made 10 ds (body.drop ds.length)

/-- The bounds of numbers with and without a sign. -/
def integerBounds (isSigned : Bool) : Int × Int :=
  if isSigned then (-9223372036854775808, 9223372036854775807)
  else (-18446744073709551615, 18446744073709551615)

/-- The whole number that an argument writes; what is left over in it is
complained about. A quote in front of a character stands for its number. -/
def Formatting.integer (dialect : Dialect) (isSigned : Bool) (f : Formatting) : Int × Formatting :=
  let (a, f) := f.take
  let cs := a.getD []
  match cs with
  | '\'' :: rest | '"' :: rest => ((rest.head?.map (·.toNat)).getD 0, f)
  | _ =>
    let (low, high) := integerBounds isSigned
    if cs.isEmpty then (0, f)
    else
      let (i, rest) := (readInteger cs).getD (0, cs)
      let bounded := max low (min high i)
      if i != bounded then
        let text := if dialect == .extended
          then "warning: ".toList ++ cs ++ ": Numerical result out of range".toList
          else cs ++ ": Numerical result out of range".toList
        (bounded, f.complain (if dialect == .extended then 0 else 1) text)
      else if rest.isEmpty then (i, f)
      else if dialect == .extended then
        let kind := if "0x".toList.isPrefixOf cs then "hex " else
          if cs.head? == some '0' then "octal " else ""
        (i, f.complain 1 (cs ++ (": invalid " ++ kind ++ "number").toList))
      else if rest.length == cs.length then
        (i, f.complain 1 (cs ++ ": expected numeric value".toList))
      else (i, f.complain 1 (cs ++ ": not completely converted".toList))

/-- The number with a point that an argument writes. -/
def Formatting.real (dialect : Dialect) (f : Formatting) : Real × Formatting :=
  let (a, f) := f.take
  let cs := a.getD []
  match cs with
  | '\'' :: rest | '"' :: rest => (.finite false ((rest.head?.map (·.toNat)).getD 0) 1, f)
  | _ =>
    if cs.isEmpty then (.finite false 0 1, f)
    else
      let bits := if dialect == .extended then 64 else 53
      match Real.read? bits cs with
      | some (x, []) => (x, f)
      | some (x, _) =>
        (x, f.complain 1 (cs ++ (if dialect == .extended then ": invalid number"
          else ": not completely converted").toList))
      | none =>
        (.finite false 0 1, f.complain 1 (cs ++ (if dialect == .extended then ": invalid number"
          else ": expected numeric value").toList))

/-- Text with its escapes replaced, and whether one of them ends
everything. -/
def unescapeArgument (style : EscapeStyle) : Nat → Chars → Chars × Bool
  | 0, cs => (cs, false)
  | fuel + 1, cs =>
    match cs with
    | [] => ([], false)
    | '\\' :: rest =>
      match Escape.read? style rest with
      | some (.chars new, after) =>
        let (more, stop) := unescapeArgument style fuel after
        (new ++ more, stop)
      | some (.stop, _) => ([], true)
      | none =>
        let (more, stop) := unescapeArgument style fuel rest
        ('\\' :: more, stop)
    | c :: rest =>
      let (more, stop) := unescapeArgument style fuel rest
      (c :: more, stop)

/-- Reads the signs of a directive. -/
def readSigns : Directive → Chars → Directive × Chars
  | d, '-' :: cs => readSigns { d with left := true } cs
  | d, '+' :: cs => readSigns { d with plus := true } cs
  | d, ' ' :: cs => readSigns { d with blank := true } cs
  | d, '#' :: cs => readSigns { d with alternate := true } cs
  | d, '0' :: cs => readSigns { d with zeros := true } cs
  | d, '\'' :: cs => readSigns d cs
  | d, cs => (d, cs)

/-- Reads a number of a directive, or takes it from the arguments. -/
def readSize (dialect : Dialect) (f : Formatting) (cs : Chars) : Int × Formatting × Chars :=
  match cs with
  | '*' :: rest =>
    let (i, f) := f.integer dialect true
    (i, f, rest)
  | _ => (numberIn 10 (cs.takeWhile isDigit), f, cs.dropWhile isDigit)

/-- Reads a directive up to its letter. -/
def readDirective (dialect : Dialect) (f : Formatting) (cs : Chars) :
    Directive × Formatting × Chars :=
  let (d, cs) := readSigns {} cs
  let (w, f, cs) := readSize dialect f cs
  let d := if w < 0 then { d with left := true, width := w.natAbs } else { d with width := w.toNat }
  let (d, f, cs) := match cs with
    | '.' :: rest =>
      let (p, f, cs) := readSize dialect f rest
      ({ d with precision := if p < 0 then none else some p.toNat }, f, cs)
    | _ => (d, f, cs)
  let cs := if dialect == .extended then cs.dropWhile fun c => "hjlLtz".toList.contains c else cs
  (d, f, cs)

/-- Carries out a directive, given its letter; none if there is no such
letter. -/
def convert? (dialect : Dialect) (d : Directive) (letter : Char) (f : Formatting) :
    Option Formatting :=
  let extended := dialect == .extended
  let string := fun (change : Chars → Chars) =>
    let (a, f) := f.take
    some (f.add (d.string (change (a.getD []))))
  match letter with
  | 'd' | 'i' =>
    let (i, f) := f.integer dialect true
    some (f.add (d.integer letter i))
  | 'o' | 'u' | 'x' | 'X' =>
    let (i, f) := f.integer dialect false
    some (f.add (d.integer letter i))
  | 'e' | 'E' | 'f' | 'F' | 'g' | 'G' | 'a' | 'A' =>
    let (x, f) := f.real dialect
    some (f.add (d.real letter x))
  | 'c' =>
    let (a, f) := f.take
    some (f.add ({ d with precision := none }.string [((a.getD []).head?).getD '\x00']))
  | 's' => string id
  | 'b' =>
    let (a, f) := f.take
    let style := if extended then EscapeStyle.argument else .plainArgument
    let cs := a.getD []
    let (text, stop) := unescapeArgument style (cs.length + 1) cs
    some { f.add (d.string text) with stopped := stop }
  | 'q' => if extended then string quoteBackslash else none
  | 'Q' =>
    if extended then
      let (a, f) := f.take
      let cs := a.getD []
      some (f.add ({ d with precision := none }.string (quoteBackslash (match d.precision with
        | some n => cs.take n
        | none => cs))))
    else none
  | 'n' => if extended then some f.take.2 else none
  | _ => none

/-- Goes through a format once. -/
def formatRound (dialect : Dialect) (now : Int) : Nat → Chars → Formatting → Formatting
  | 0, _, f => f
  | fuel + 1, cs, f =>
    if f.stopped then f
    else
      let extended := dialect == .extended
      let go := formatRound dialect now fuel
      let fail := fun (f : Formatting) (message : Chars) =>
        { f.complain (if extended then 1 else 2) message with stopped := true, arguments := [] }
      match cs with
      | [] => f
      | '%' :: '%' :: rest => go rest (f.add ['%'])
      | '%' :: rest =>
        let (d, f, after) := readDirective dialect f rest
        let written := '%' :: rest.take (rest.length - after.length)
        match after with
        | [] =>
          fail f
            (if extended then [Char.ofNat 96] ++ written ++ "': missing format character".toList
            else "missing format character".toList)
        | '(' :: inside =>
          let format := inside.takeWhile (· != ')')
          match extended, inside.drop format.length with
          | true, ')' :: 'T' :: rest =>
            let (a, f) := f.take
            let t : Int := match a.bind fun cs => if cs.isEmpty then none else readInteger cs with
              | some (i, _) => if i < 0 then now else i
              | none => now
            let format := if format.isEmpty then ['%', 'X'] else format
            go rest (f.add (d.string (Date.format t (2 * format.length + 8) format)))
          | _, _ => fail f (written ++ ['('] ++ ": invalid directive".toList)
        | c :: rest =>
          match convert? dialect d c f with
          | some f => go rest f
          | none =>
            fail f (if extended then [Char.ofNat 96] ++ [c] ++ "': invalid format character".toList
              else written ++ [c] ++ ": invalid directive".toList)
      | '\\' :: rest =>
        match Escape.read? (if extended then .format else .plainFormat) rest with
        | some (.chars new, after) => go after (f.add new)
        | _ => go rest (f.add ['\\'])
      | c :: rest =>
        let text := c :: rest.takeWhile fun d => d != '%' && d != '\\'
        go (cs.drop text.length) (f.add text)

/-- Goes through a format until the arguments are used up. -/
def formatRounds (dialect : Dialect) (now : Int) (format : Chars) : Nat → Formatting → Formatting
  | 0, f => f
  | fuel + 1, f =>
    let f := formatRound dialect now (format.length + 1) format { f with took := false }
    if f.took && !f.stopped && !f.arguments.isEmpty then formatRounds dialect now format fuel f
    else f

/-- The text of a format with arguments. -/
def formatText (dialect : Dialect) (now : Int) (format : Chars) (arguments : List Chars) :
    Formatting :=
  formatRounds dialect now format (arguments.length + 1) { arguments := arguments }

end ScriptMatrix.Sandbox.Shell
