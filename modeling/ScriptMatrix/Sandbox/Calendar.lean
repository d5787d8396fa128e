import ScriptMatrix.Sandbox.Chars

/-!
# `ScriptMatrix.Sandbox.Calendar`: dates in a format

A moment is a number of seconds since the first day of the year 1970, and
days have the same length everywhere.
-/

set_option autoImplicit false

namespace ScriptMatrix.Sandbox

/-- A moment in the words of the calendar. -/
structure Date where
  year : Int
  /-- From one on. -/
  month : Nat
  day : Nat
  hour : Nat
  minute : Nat
  second : Nat
  /-- From zero on, for the seventh day of the week. -/
  weekday : Nat
  /-- From one on. -/
  yearDay : Nat
  deriving Repr

/-- The number of days before the first day of a year. -/
def daysBefore (year : Int) : Int :=
  let y := year - 1
  365 * (year - 1970) + (y.fdiv 4 - y.fdiv 100 + y.fdiv 400) - 477

/-- Whether a year has a day more. -/
def isLeap (year : Int) : Bool := year % 4 == 0 && (year % 100 != 0 || year % 400 == 0)

/-- How many days a month has. -/
def monthDays (year : Int) (month : Nat) : Nat :=
  if month == 2 then if isLeap year then 29 else 28
  else if [4, 6, 9, 11].contains month then 30
  else 31

/-- The month and day of a day of the year, counted from zero on. -/
def monthOf (year : Int) : Nat → Nat → Nat → Nat × Nat
  | 0, month, day => (month, day + 1)
  | fuel + 1, month, day =>
    if day < monthDays year month then (month, day + 1)
    else monthOf year fuel (month + 1) (day - monthDays year month)

/-- The date of a moment. -/
def Date.ofSeconds (t : Int) : Date :=
  let days := t.fdiv 86400
  let rest := (t.fmod 86400).toNat
  let guess := 1970 + days.fdiv 366
  let year := (List.range 800).foldl
    (fun y _ => if daysBefore (y + 1) ≤ days then y + 1 else y) guess
  let inYear := (days - daysBefore year).toNat
  let (month, day) := monthOf year 12 1 inYear
  { year := year, month := month, day := day, hour := rest / 3600, minute := rest / 60 % 60
    second := rest % 60, weekday := ((days + 4) % 7).toNat, yearDay := inYear + 1 }

/-- The names of the days of the week. -/
def dayNames : List String :=
  ["Sunday", "Monday", "Tuesday", "Wednesday", "Thursday", "Friday", "Saturday"]

/-- The names of the months. -/
def monthNames : List String :=
  ["January", "February", "March", "April", "May", "June", "July", "August", "September",
    "October", "November", "December"]

/-- A number with so many digits at least, filled up in front. -/
def filled (width : Nat) (fill : Char) (n : Nat) : Chars :=
  List.replicate (width - (digits n).length) fill ++ digits n

/-- A moment in a format, in which letters behind percent signs stand for
parts of the date. -/
def Date.format (t : Int) : Nat → Chars → Chars
  | 0, _ => []
  | _, [] => []
  | fuel + 1, '%' :: '-' :: c :: rest =>
    let text := Date.format t fuel ['%', c]
    let stripped := text.dropWhile (· == '0')
    (if stripped.isEmpty && !text.isEmpty then ['0'] else stripped) ++ Date.format t fuel rest
  | fuel + 1, '%' :: c :: rest =>
    let d := Date.ofSeconds t
    let two := filled 2 '0'
    let sub := fun (f : String) => Date.format t fuel f.toList
    let twelve := if d.hour % 12 == 0 then 12 else d.hour % 12
    let text : Chars := match c with
      | 'Y' => signedDigits d.year
      | 'C' => two (d.year / 100).toNat
      | 'y' => two (d.year % 100).toNat
      | 'm' => two d.month
      | 'd' => two d.day
      | 'e' => filled 2 ' ' d.day
      | 'H' => two d.hour
      | 'k' => filled 2 ' ' d.hour
      | 'I' => two twelve
      | 'l' => filled 2 ' ' twelve
      | 'M' => two d.minute
      | 'S' => two d.second
      | 'N' => "000000000".toList
      | 'j' => filled 3 '0' d.yearDay
      | 'u' => digits (if d.weekday == 0 then 7 else d.weekday)
      | 'w' => digits d.weekday
      | 'a' => ((dayNames[d.weekday]?).getD "").toList.take 3
      | 'A' => ((dayNames[d.weekday]?).getD "").toList
      | 'b' | 'h' => ((monthNames[d.month - 1]?).getD "").toList.take 3
      | 'B' => ((monthNames[d.month - 1]?).getD "").toList
      | 'p' => if d.hour < 12 then ['A', 'M'] else ['P', 'M']
      | 'P' => if d.hour < 12 then ['a', 'm'] else ['p', 'm']
      | 's' => signedDigits t
      | 'z' => "+0000".toList
      | 'Z' => "UTC".toList
      | 'n' => ['\n']
      | 't' => ['\t']
      | '%' => ['%']
      | 'F' => sub "%Y-%m-%d"
      | 'T' | 'X' => sub "%H:%M:%S"
      | 'R' => sub "%H:%M"
      | 'D' | 'x' => sub "%m/%d/%y"
      | 'c' => sub "%a %b %e %H:%M:%S %Y"
      | 'r' => sub "%I:%M:%S %p"
      | _ => ['%', c]
    text ++ Date.format t fuel rest
  | fuel + 1, c :: rest => c :: Date.format t fuel rest

end ScriptMatrix.Sandbox
