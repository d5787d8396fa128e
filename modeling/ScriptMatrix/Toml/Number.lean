import ScriptMatrix.Decimal.Binary64
import ScriptMatrix.Toml.Scan
import ScriptMatrix.Toml.Value

/-!
# `ScriptMatrix.Toml.Number`: numbers and points in time

Both begin with a digit, and the form decides. Underscores may stand
between digits, zeros in front may not, and integers have 64 bits.
-/

set_option autoImplicit false

namespace ScriptMatrix.Toml

open ScriptMatrix.Decimal (Binary64)

/-- Takes a row of digits with single underscores between them;
`behindDigit` tells whether a digit has just been taken. -/
def digitsFrom (isDigit : Char → Bool) (behindDigit : Bool) : List Char → List Char × List Char
  | [] => ([], [])
  | c :: cs =>
    if isDigit c then
      let (more, rest) := digitsFrom isDigit true cs
      (c :: more, rest)
    else if c == '_' && behindDigit && cs.head?.any isDigit then digitsFrom isDigit false cs
    else ([], c :: cs)

/-- Takes a row of digits with single underscores between them. -/
def digitRow (isDigit : Char → Bool) (cs : List Char) : List Char × List Char :=
  digitsFrom isDigit false cs

/-- The sign in front of a text, if there is one. -/
def splitSign : List Char → Bool × List Char
  | '+' :: cs => (false, cs)
  | '-' :: cs => (true, cs)
  | cs => (false, cs)

/-- The number that digits of a base write. -/
def ofDigits (base : Nat) (ds : List Char) : Nat :=
  ds.foldl (fun n c => n * base + (Parse.hexValue? c).getD 0) 0

/-- The digits of a decimal integer without sign: a zero alone, or a row
that begins with none. -/
def decimalDigits? (cs : List Char) : Option (List Char × List Char) :=
  match cs with
  | '0' :: rest => some (['0'], rest)
  | _ =>
    match digitRow Parse.isDigit cs with
    | ([], _) => none
    | (ds, rest) => some (ds, rest)

/-- The digits behind a point, and the rest of the text. -/
def fraction? : List Char → Option (List Char × List Char)
  | '.' :: rest =>
    match digitRow Parse.isDigit rest with
    | ([], _) => none
    | found => some found
  | _ => none

/-- The exponent of a real number, and the rest of the text. -/
def exponent? : List Char → Option (Int × List Char)
  | c :: rest =>
    if c == 'e' || c == 'E' then
      let (negative, body) := splitSign rest
      match digitRow Parse.isDigit body with
      | ([], _) => none
      | (ds, after) =>
        let n : Int := ofDigits 10 ds
        some (if negative then -n else n, after)
    else none
  | [] => none

/-- Whether a positive real number is beyond the largest one. -/
def isTooLarge (negative : Bool) (digits : List Char) (exponent : Int) : Bool :=
  !negative && (Binary64.ofDecimal (ofDigits 10 digits) exponent).isNone

/-- A real number and the rest of the text. -/
def real? (cs : List Char) : Option (Value × List Char) :=
  let (negative, body) := splitSign cs
  if "inf".toList.isPrefixOf body || "nan".toList.isPrefixOf body then
    some (.real, body.drop 3)
  else match decimalDigits? body with
    | none => none
    | some (whole, rest) =>
      match fraction? rest, exponent? rest with
      | some (fraction, after), _ =>
        let (e, after) := (exponent? after).getD (0, after)
        if isTooLarge negative (whole ++ fraction) (e - fraction.length) then none
        else some (.real, after)
      | none, some (e, after) =>
        if isTooLarge negative whole e then none else some (.real, after)
      | none, none => none

/-- An integer, if it has 64 bits. -/
def fit? (i : Int) : Option Value :=
  if -Int.pow 2 63 ≤ i && i < Int.pow 2 63 then some (.integer i) else none

/-- An integer in a base given by letter, and the rest of the text. -/
def based? (base : Nat) (cs : List Char) : Option (Value × List Char) :=
  let isOwn := fun c => match Parse.hexValue? c with
    | some d => d < base
    | none => false
  match digitRow isOwn cs with
  | ([], _) => none
  | (ds, rest) => (fit? (ofDigits base ds)).map fun v => (v, rest)

/-- An integer and the rest of the text. -/
def integer? : List Char → Option (Value × List Char)
  | '0' :: 'x' :: cs => based? 16 cs
  | '0' :: 'o' :: cs => based? 8 cs
  | '0' :: 'b' :: cs => based? 2 cs
  | cs =>
    let (negative, body) := splitSign cs
    match decimalDigits? body with
    | none => none
    | some (ds, rest) =>
      let n : Int := ofDigits 10 ds
      (fit? (if negative then -n else n)).map fun v => (v, rest)

/-- The number that exactly so many digits write, within bounds. -/
def fixed? (width lo hi : Nat) (cs : List Char) : Option (Nat × List Char) :=
  let ds := cs.take width
  let n := ofDigits 10 ds
  if ds.length == width && ds.all Parse.isDigit && lo ≤ n && n ≤ hi then
    some (n, cs.drop width)
  else none

/-- Passes over a character. -/
def mark? (c : Char) : List Char → Option (List Char)
  | d :: cs => if d == c then some cs else none
  | [] => none

/-- How many days a month has. -/
def daysIn (year month : Nat) : Nat :=
  if month == 2 then
    if year % 4 == 0 && (year % 100 != 0 || year % 400 == 0) then 29 else 28
  else if [4, 6, 9, 11].contains month then 30
  else 31

/-- What follows a date. -/
def date? (cs : List Char) : Option (List Char) := do
  let (year, cs) ← fixed? 4 0 9999 cs
  let (month, cs) ← fixed? 2 1 12 (← mark? '-' cs)
  let (_, cs) ← fixed? 2 1 (daysIn year month) (← mark? '-' cs)
  return cs

/-- What follows a time of day. -/
def timeOfDay? (cs : List Char) : Option (List Char) := do
  let (_, cs) ← fixed? 2 0 23 cs
  let (_, cs) ← fixed? 2 0 59 (← mark? ':' cs)
  let (_, cs) ← fixed? 2 0 60 (← mark? ':' cs)
  match cs with
  | '.' :: rest =>
    if (rest.takeWhile Parse.isDigit).isEmpty then none
    else some (rest.dropWhile Parse.isDigit)
  | _ => some cs

/-- What follows the distance to universal time, if that is given. -/
def afterOffset (cs : List Char) : List Char :=
  match cs with
  | [] => []
  | c :: rest =>
    if c == 'Z' || c == 'z' then rest
    else if c == '+' || c == '-' then
      (do
        let (_, more) ← fixed? 2 0 23 rest
        let (_, more) ← fixed? 2 0 59 (← mark? ':' more)
        return more : Option (List Char)).getD cs
    else cs

/-- What follows a point in time. -/
def moment? (cs : List Char) : Option (List Char) :=
  match date? cs with
  | none => timeOfDay? cs
  | some (c :: rest) =>
    if c == 'T' || c == 't' || c == ' ' then
      match timeOfDay? rest with
      | some more => some (afterOffset more)
      | none => some (c :: rest)
    else some (c :: rest)
  | some [] => some []

/-- A number or a point in time, and the rest of the text. -/
def number? (cs : List Char) : Option (Value × List Char) :=
  match moment? cs with
  | some rest => some (.moment, rest)
  | none =>
    match real? cs with
    | some found => some found
    | none => integer? cs

end ScriptMatrix.Toml
