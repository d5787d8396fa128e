/-!
# `ScriptMatrix.Text.Blank`: blank characters and trimming

`isBlank` is Unicode's `White_Space` property: the class that include
lines, override names and the log line of a script are cut by. Trimming
is defined on `List Char`; the `String` forms wrap it.
-/

set_option autoImplicit false

namespace ScriptMatrix.Text

/-- Unicode's `White_Space` property. -/
def isBlank (c : Char) : Bool :=
  let n := c.toNat
  (0x09 ≤ n && n ≤ 0x0d) || n == 0x20 || n == 0x85 || n == 0xa0 || n == 0x1680
    || (0x2000 ≤ n && n ≤ 0x200a) || n == 0x2028 || n == 0x2029 || n == 0x202f
    || n == 0x205f || n == 0x3000

/-- The text without its leading blanks. -/
def trimStart (cs : List Char) : List Char := cs.dropWhile isBlank

/-- The text without its trailing blanks. -/
def trimEnd (cs : List Char) : List Char := (cs.reverse.dropWhile isBlank).reverse

/-- The text without the blanks on either side. -/
def trim (cs : List Char) : List Char := trimEnd (trimStart cs)

end ScriptMatrix.Text
