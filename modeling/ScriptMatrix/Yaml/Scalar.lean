import ScriptMatrix.Yaml.Value

/-!
# `ScriptMatrix.Yaml.Scalar`: what an unquoted scalar stands for

A plain scalar is null, a boolean, an integer or a real number when its
text has the form of one, tried in this order, and else a string. The
forms are those of the core schema, with `0b` beside `0x` and `0o`, and
with a leading zero before further digits making text of a number.
-/

set_option autoImplicit false

namespace ScriptMatrix.Yaml.Scalar

open ScriptMatrix.Decimal (Binary64)

/-- The words for null; the empty scalar is null too. -/
def isNull (s : String) : Bool := ["null", "Null", "NULL", "~"].contains s

/-- The words for the two booleans. -/
def bool? (s : String) : Option Bool :=
  if ["true", "True", "TRUE"].contains s then some true
  else if ["false", "False", "FALSE"].contains s then some false
  else none

/-- The value of a digit in the number systems up to sixteen. -/
def digitValue? (c : Char) : Option Nat :=
  if '0' ≤ c && c ≤ '9' then some (c.toNat - '0'.toNat)
  else if 'a' ≤ c && c ≤ 'f' then some (c.toNat - 'a'.toNat + 10)
  else if 'A' ≤ c && c ≤ 'F' then some (c.toNat - 'A'.toNat + 10)
  else none

/-- The number that a non-empty row of digits of a base writes. -/
def digits? (base : Nat) (cs : List Char) : Option Nat :=
  if cs.isEmpty then none
  else cs.foldlM (fun n c => do
    let d ← digitValue? c
    guard (d < base)
    return n * base + d) 0

/-- A decimal digit. -/
def isDigit (c : Char) : Bool := '0' ≤ c && c ≤ '9'

/-- A text and the sign in front of it, if there is one. -/
def splitSign : List Char → Option Char × List Char
  | '+' :: cs => (some '+', cs)
  | '-' :: cs => (some '-', cs)
  | cs => (none, cs)

/-- Digits alone with a zero in front of others: text, not a number. -/
def hasIdleZero (cs : List Char) : Bool :=
  match (splitSign cs).2 with
  | '0' :: rest => !rest.isEmpty && rest.all isDigit
  | _ => false

/-- The magnitude of an integer without its sign: in base two, eight or
sixteen after `0b`, `0o` or `0x`, else decimal. -/
def magnitude? : List Char → Option Nat
  | '0' :: 'x' :: cs => digits? 16 cs
  | '0' :: 'o' :: cs => digits? 8 cs
  | '0' :: 'b' :: cs => digits? 2 cs
  | cs => digits? 10 cs

/-- The integer that a text writes, of any size. -/
def integer? (cs : List Char) : Option Int :=
  if hasIdleZero cs then none
  else
    let (sign, body) := splitSign cs
    (magnitude? body).map fun n => if sign == some '-' then -(n : Int) else (n : Int)

/-- What an integer's size makes of it. -/
inductive IntegerSize where
  /-- It fits a signed or an unsigned integer of 64 bits. -/
  | word
  /-- It fits only an integer of 128 bits: no value of the language. -/
  | wide
  /-- It fits neither; a decimal one is then read as a real number. -/
  | huge
  deriving Repr, DecidableEq

/-- The size of an integer. -/
def integerSize (i : Int) : IntegerSize :=
  if -Int.pow 2 63 ≤ i && i < Int.pow 2 64 then .word
  else if -Int.pow 2 127 ≤ i && i < Int.pow 2 128 then .wide
  else .huge

/-- The parts of a decimal: digits before and after the point, exponent. -/
def decimalParts? (cs : List Char) : Option (List Char × List Char × Int) :=
  let whole := cs.takeWhile isDigit
  let afterWhole := cs.dropWhile isDigit
  let (fraction, rest) := match afterWhole with
    | '.' :: r => (r.takeWhile isDigit, r.dropWhile isDigit)
    | r => ([], r)
  if whole.isEmpty && fraction.isEmpty then none
  else match rest with
    | [] => some (whole, fraction, 0)
    | e :: r =>
      if e == 'e' || e == 'E' then
        let (sign, body) := splitSign r
        (digits? 10 body).map fun n =>
          (whole, fraction, if sign == some '-' then -(n : Int) else (n : Int))
      else none

/-- The finite real number that a text writes in decimal. One beyond the
largest number is text. -/
def finite? (cs : List Char) : Option Number := do
  let (sign, body) := splitSign cs
  let (whole, fraction, exponent) ← decimalParts? body
  let digits := (digits? 10 (whole ++ fraction)).getD 0
  let x ← Binary64.ofDecimal digits (exponent - fraction.length)
  return .real (sign == some '-') x

/-- The real number that a text writes, the words for infinity and for
the undefined number included. -/
def real? (s : String) : Option Number :=
  if [".inf", ".Inf", ".INF", "+.inf", "+.Inf", "+.INF"].contains s then some (.infinite false)
  else if ["-.inf", "-.Inf", "-.INF"].contains s then some (.infinite true)
  else if [".nan", ".NaN", ".NAN"].contains s then some .undefined
  else finite? s.toList

/-- The value of a plain scalar; `none` for an integer that no value of
the language can hold. -/
def plain? (s : String) : Option Value :=
  if s.isEmpty || isNull s then some .null
  else match bool? s with
    | some b => some (.bool b)
    | none =>
      let asReal := if hasIdleZero s.toList then none else real? s
      let asText := match asReal with
        | some n => Value.number n
        | none => Value.string s
      match integer? s.toList with
      | none => some asText
      | some i =>
        match integerSize i with
        | .word => some (.number (.integer i))
        | .wide => none
        | .huge => some asText

end ScriptMatrix.Yaml.Scalar
