import ScriptMatrix.Decimal.Shortest

/-!
# `ScriptMatrix.Yaml.Number`: numbers of the data language

A number is an integer of 64 bits, with or without sign, or a number of
the 64-bit binary format. `Number.text` writes it: integers in decimal,
the others with the fewest digits that read back, positional from
`0.00001` up to below `1e16` and with an exponent outside.
-/

set_option autoImplicit false

namespace ScriptMatrix.Yaml

open ScriptMatrix.Decimal (Binary64 Scaled)

/-- A number of block data. -/
inductive Number where
  | integer (i : Int)
  | real (negative : Bool) (magnitude : Binary64)
  | infinite (negative : Bool)
  | undefined
  deriving Repr, DecidableEq

namespace Number

/-- Whether two numbers are one mapping key: the kind counts, so that
`1` and `1.0` differ; the two zeros are equal, and so are undefined
numbers. -/
def same : Number → Number → Bool
  | .integer i, .integer j => i == j
  | .real s x, .real t y => x == y && (s == t || x.mantissa == 0)
  | .infinite s, .infinite t => s == t
  | .undefined, .undefined => true
  | _, _ => false

/-- So many zeros. -/
def zeros (n : Nat) : String := String.ofList (List.replicate n '0')

/-- A decimal in text, with at least one digit on either side of a point,
or with an exponent when its leading digit stands below `10 ^ -5` or at
`10 ^ 16` and above. -/
def scaledText (d : Scaled) : String :=
  let digits := Nat.toDigits 10 d.digits
  let size : Int := digits.length + d.exponent
  if 0 ≤ d.exponent && size ≤ 16 then
    String.ofList digits ++ zeros d.exponent.toNat ++ ".0"
  else if 0 < size && size ≤ 16 then
    String.ofList (digits.take size.toNat) ++ "." ++ String.ofList (digits.drop size.toNat)
  else if -5 < size && size ≤ 0 then
    "0." ++ zeros (-size).toNat ++ String.ofList digits
  else
    let fraction := digits.drop 1
    String.ofList (digits.take 1)
      ++ (if fraction.isEmpty then "" else "." ++ String.ofList fraction)
      ++ "e" ++ toString (size - 1)

/-- The text of a number. -/
def text : Number → String
  | .integer i => toString i
  | .real negative x => (if negative then "-" else "") ++ scaledText x.shortest
  | .infinite negative => if negative then "-.inf" else ".inf"
  | .undefined => ".nan"

end Number

end ScriptMatrix.Yaml
