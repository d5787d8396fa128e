import ScriptMatrix.Sandbox.Chars

/-!
# `ScriptMatrix.Sandbox.Real`: numbers with a point

A number is read exactly and then rounded to so many bits. It is written
with a fixed number of places, with an exponent, or in the shorter of both
ways; what is exactly in the middle between two results goes to the even
one.
-/

set_option autoImplicit false

namespace ScriptMatrix.Sandbox

/-- A number with a sign, or what is none. -/
inductive Real where
  /-- A quotient; the lower part is not zero. -/
  | finite (negative : Bool) (upper lower : Nat)
  | infinite (negative : Bool)
  | nan
  deriving Repr

/-- A quotient rounded to a whole number, the even one of two as near. -/
def roundHalfEven (n d : Nat) : Nat :=
  let q := n / d
  let r := n % d
  if d < 2 * r || (2 * r == d && q % 2 == 1) then q + 1 else q

namespace Real

/-- The largest power of ten that is taken into account. -/
def exponentLimit : Nat := 5000

/-- A quotient rounded to so many bits. -/
def roundBits (bits n d : Nat) : Nat × Nat :=
  if n == 0 then (0, 1)
  else
    -- `n / d` is between `2 ^ (k - 1)` and `2 ^ (k + 1)`.
    let k : Int := (n.log2 : Int) - d.log2
    let shift : Int := (bits : Int) - 1 - k
    let scaled := fun (s : Int) => if 0 ≤ s then (n * Nat.pow 2 s.toNat, d)
      else (n, d * Nat.pow 2 (-s).toNat)
    let (a, b) := scaled shift
    let (shift, a, b) :=
      if a / b < Nat.pow 2 (bits - 1) then
        let (a', b') := scaled (shift + 1)
        (shift + 1, a', b')
      else (shift, a, b)
    let m := roundHalfEven a b
    if 0 ≤ shift then (m, Nat.pow 2 shift.toNat) else (m * Nat.pow 2 (-shift).toNat, 1)

/-- The number at the front of a text and what is behind it; none if there
is no number. -/
def read? (bits : Nat) (cs : Chars) : Option (Real × Chars) :=
  let cs := cs.dropWhile isSpace
  let (negative, body) := match cs with
    | '-' :: rest => (true, rest)
    | '+' :: rest => (false, rest)
    | _ => (false, cs)
  let lower := body.map toLower
  if "infinity".toList.isPrefixOf lower then some (.infinite negative, body.drop 8)
  else if "inf".toList.isPrefixOf lower then some (.infinite negative, body.drop 3)
  else if "nan".toList.isPrefixOf lower then some (.nan, body.drop 3)
  else
    let isHex := "0x".toList.isPrefixOf lower && ((lower.drop 2).head?.any fun c =>
      (hexValue? c).isSome)
    let body := if isHex then body.drop 2 else body
    let inNumber := fun (c : Char) => if isHex then (hexValue? c).isSome else isDigit c
    let base := if isHex then 16 else 10
    let whole := body.takeWhile inNumber
    let rest := body.drop whole.length
    let (part, rest) := match rest with
      | '.' :: more => (more.takeWhile inNumber, more.dropWhile inNumber)
      | _ => ([], rest)
    if whole.isEmpty && part.isEmpty then none
    else
      let sign := if isHex then 'p' else 'e'
      let (exponent, rest) : Int × Chars := match rest with
        | e :: more =>
          if toLower e == sign then
            let (minus, ds) := match more with
              | '-' :: ds => (true, ds)
              | '+' :: ds => (false, ds)
              | ds => (false, ds)
            let number := ds.takeWhile isDigit
            if number.isEmpty then (0, rest)
            else
              let n : Int := numberIn 10 number
              (if minus then -n else n, ds.drop number.length)
          else (0, rest)
        | [] => (0, rest)
      let mantissa := numberIn base (whole ++ part)
      let below := base.pow part.length
      if mantissa == 0 then some (.finite negative 0 1, rest)
      else if exponentLimit < exponent then some (.infinite negative, rest)
      else if exponent < -exponentLimit then some (.finite negative 0 1, rest)
      else
        let unit := if isHex then 2 else 10
        let (n, d) := if 0 ≤ exponent then (mantissa * unit.pow exponent.toNat, below)
          else (mantissa, below * unit.pow (-exponent).toNat)
        let (n, d) := roundBits bits n d
        some (.finite negative n d, rest)

/-- A quotient with so many places. -/
def fixed (places n d : Nat) (keepPoint : Bool) : Chars :=
  let ds := digits (roundHalfEven (n * Nat.pow 10 places) d)
  let ds := List.replicate (places + 1 - ds.length) '0' ++ ds
  let whole := ds.take (ds.length - places)
  let part := ds.drop (ds.length - places)
  if part.isEmpty then if keepPoint then whole ++ ['.'] else whole else whole ++ ['.'] ++ part

/-- The power of ten in front of which a quotient has one digit. -/
def exponentOf (n d : Nat) : Int :=
  if n == 0 then 0
  else
    let guess : Int := ((digits n).length : Int) - (digits d).length
    let atLeast := fun (e : Int) =>
      if 0 ≤ e then d * Nat.pow 10 e.toNat ≤ n else d ≤ n * Nat.pow 10 (-e).toNat
    if atLeast (guess + 1) then guess + 1 else if atLeast guess then guess else guess - 1

/-- The digits of a quotient with one in front of the point, and the power
of ten that belongs to them. -/
def scientific (places n d : Nat) : Nat × Int :=
  let e := exponentOf n d
  let shift : Int := (places : Int) - e
  let m := if 0 ≤ shift then roundHalfEven (n * Nat.pow 10 shift.toNat) d
    else roundHalfEven n (d * Nat.pow 10 (-shift).toNat)
  if Nat.pow 10 (places + 1) ≤ m then (m / 10, e + 1) else (m, e)

/-- A power of ten behind digits. -/
def exponentText (e : Int) : Chars :=
  let ds := digits e.natAbs
  ['e', if e < 0 then '-' else '+'] ++ List.replicate (2 - ds.length) '0' ++ ds

/-- A quotient with a power of ten. -/
def withExponent (places n d : Nat) (keepPoint : Bool) : Chars :=
  let (m, e) := scientific places n d
  let ds := digits m
  let ds := List.replicate (places + 1 - ds.length) '0' ++ ds
  let point : Chars := if places == 0 && !keepPoint then [] else ['.']
  ds.take 1 ++ point ++ ds.drop 1 ++ exponentText e

/-- A text without the zeros behind its point. -/
def dropZeros (cs : Chars) : Chars :=
  if cs.contains '.' then
    let kept := (cs.reverse.dropWhile (· == '0'))
    (if kept.head? == some '.' then kept.drop 1 else kept).reverse
  else cs

/-- A quotient with so many digits that count, with a power of ten only if
it is very large or small. -/
def general (precision n d : Nat) (keepPoint : Bool) : Chars :=
  let p := if precision == 0 then 1 else precision
  let (m, e) := scientific (p - 1) n d
  if e < -4 || (p : Int) ≤ e then
    let ds := digits m
    let ds := List.replicate (p - ds.length) '0' ++ ds
    let body := ds.take 1 ++ (if p == 1 then [] else ['.']) ++ ds.drop 1
    (if keepPoint then body else dropZeros body) ++ exponentText e
  else
    let text := fixed ((p : Int) - 1 - e).toNat n d keepPoint
    if keepPoint then text else dropZeros text

/-- The text of a number without its sign, as a letter asks for it. -/
def format (letter : Char) (precision : Option Nat) (keepPoint : Bool) : Real → Chars
  | .finite _ n d =>
    let p := precision.getD 6
    match toLower letter with
    | 'f' => fixed p n d keepPoint
    | 'e' => withExponent p n d keepPoint
    | _ => general p n d keepPoint
  | .infinite _ => "inf".toList
  | .nan => "nan".toList

/-- Whether a number has a minus sign. -/
def isNegative : Real → Bool
  | .finite negative _ _ | .infinite negative => negative
  | .nan => false

/-- Whether a number is one. -/
def isFinite : Real → Bool
  | .finite .. => true
  | _ => false

end Real

end ScriptMatrix.Sandbox
