import ScriptMatrix.Unicode.Table

/-!
# `ScriptMatrix.Unicode.CaseFolding`: characters that differ in case only

Simple case folding takes a character to one that stands for all that
differ from it in case. The table lists the characters that folding
changes: how far each is behind the one before, and how far it is moved,
`2 * n` upwards and `2 * n - 1` downwards.
-/

set_option autoImplicit false

namespace ScriptMatrix.Unicode.CaseFolding

/-- The characters that folding changes, with the distance. -/
def table : String :=
  "Y1Y01Y01Y01Y01Y01Y01Y01Y01Y01Y01Y01Y01Y01Y01Y01Y01Y01Y01Y01Y01Y01Y01Y01Y01Y01Y0YRXmEBY01" ++
  "Y01Y01Y01Y01Y01Y01Y01Y01Y01Y01Y01Y01Y01Y01Y01Y01Y01Y01Y01Y01Y01Y02Y01Y01Y01Y01Y01Y01Y0X2" ++
  "2222222222222222222222222222222222222222222222242222232222222222222223222222222222222222" ++
  "2222222222222222222222222222dH1222222mN2j412222iS122iQ1iQ123aU1iK1iM122iQ1iU2j61j2124j61" ++
  "jA2jC1222222jK122jK322jK122jI1jI12222jM1242841224122412222222222222222232222222222222222" ++
  "23412222c11ZF12222222222222222222222222222222222222222e32222222222222222228rYM122g51rYG3" ++
  "22i51aA1aE1222222222dNd8XB222429d87YC2YA1YA1YA2a02ZU1ZU2Y01Y01Y01Y01Y01Y01Y01Y01Y01Y01Y0" ++
  "1Y01Y01Y01Y01Y01Y02Y01Y01Y01Y01Y01Y01Y01Y01Y0N2DG1XR1XH4T1XB2222222222222222222222222ZB1" ++
  "YV3ZN1ZV222D123e31e31e31b01b01b01b01b01b01b01b01b01b01b01b01b01b01b01b01Y01Y01Y01Y01Y01Y" ++
  "01Y01Y01Y01Y01Y01Y01Y01Y01Y01Y01Y01Y01Y01Y01Y01Y01Y01Y01Y01Y01Y01Y01Y01Y01Y01Y0XH2222222" ++
  "22222222222222222222222222A222222222222222222222222222222222222222222222222222222U122222" ++
  "2222222232222222222222222222222222222222222222222222222222222222222222222222222222222222" ++
  "22222222222222223Z01Z01Z01Z01Z01Z01Z01Z01Z01Z01Z01Z01Z01Z01Z01Z01Z01Z01Z01Z01Z01Z01Z01Z0" ++
  "1Z01Z01Z01Z01Z01Z01Z01Z01Z01Z01Z01Z01Z01Z0YwAkc01kc01kc01kc01kc01kc01kc01kc01kc01kc01kc0" ++
  "1kc01kc01kc01kc01kc01kc01kc01kc01kc01kc01kc01kc01kc01kc01kc01kc01kc01kc01kc01kc01kc01kc0" ++
  "1kc01kc01kc01kc01kc02kc06kc0vBF1F1F1F1F1FYa3iaR1iaP1ia71ia31ia31ia51iZN1iY71Yay6127bxV1b" ++
  "xV1bxV1bxV1bxV1bxV1bxV1bxV1bxV1bxV1bxV1bxV1bxV1bxV1bxV1bxV1bxV1bxV1bxV1bxV1bxV1bxV1bxV1b" ++
  "xV1bxV1bxV1bxV1bxV1bxV1bxV1bxV1bxV1bxV1bxV1bxV1bxV1bxV1bxV1bxV1bxV1bxV1bxV1bxV3bxV1bxV1b" ++
  "xVg1222222222222222222222222222222222222222222222222222222222222222222222222222222222222" ++
  "222222222222222222222222222222222222222222222222222222222222222227ZJ3kxT2222222222222222" ++
  "22222222222222222222222222222222222222222222222222222222222222222222222222222222AF1F1F1F" ++
  "1F1F1F1F9F1F1F1F1F1FBF1F1F1F1F1F1F1F9F1F1F1F1F1F1F1F9F1F1F1F1F1FCF2F2F2F9F1F1F1F1F1F1F1F" ++
  "PF1F1F1F1F1F1F1F9F1F1F1F1F1F1F1F9F1F1F1F1F1F1F1F9F1F1aJ1aJ1H2kW9AbB1bB1bB1bB1H7ka55F1F1c" ++
  "71c78kZ55F1F1cV1cV1DCdV1dV1dR1dR1HfAkrP4mhT1maB7XOXEX01X01X01X01X01X01X01X01X01X01X01X01" ++
  "X01X01X01X0K2vJXK1XK1XK1XK1XK1XK1XK1XK1XK1XK1XK1XK1XK1XK1XK1XK1XK1XK1XK1XK1XK1XK1XK1XK1X" ++
  "K1XKXvHZ01Z01Z01Z01Z01Z01Z01Z01Z01Z01Z01Z01Z01Z01Z01Z01Z01Z01Z01Z01Z01Z01Z01Z01Z01Z01Z01" ++
  "Z01Z01Z01Z01Z01Z01Z01Z01Z01Z01Z01Z01Z01Z01Z01Z01Z01Z01Z01Z01Z0XH22q_D1dkB1q.D3222222rXN1" ++
  "q_P1rXT1rXR22329rZT1rZT12222222222222222222222222222222222222222222222222222222222222222" ++
  "22222222222222222222222222222222222922252.gE22222222222222222222222222222222222222222222" ++
  "2K222222222222222222222222222a8222222222222242222222222222222222222222222222222222222222" ++
  "222222222222222222B2222YbW71222222222522YooF3222422222222222222222222Yoq71YoqT1YoqL1Yoq1" ++
  "1Yoq72Yon31YooJ1Yon91Xw012222222222222222YV1Yoq51YbZF12222YosD12426222222Ypa1P2xRYhyV1Yh" ++
  "yV1YhyV1YhyV1YhyV1YhyV1YhyV1YhyV1YhyV1YhyV1YhyV1YhyV1YhyV1YhyV1YhyV1YhyV1YhyV1YhyV1YhyV1" ++
  "YhyV1YhyV1YhyV1YhyV1YhyV1YhyV1YhyV1YhyV1YhyV1YhyV1YhyV1YhyV1YhyV1YhyV1YhyV1YhyV1YhyV1Yhy" ++
  "V1YhyV1YhyV1YhyV1YhyV1YhyV1YhyV1YhyV1YhyV1YhyV1YhyV1YhyV1YhyV1YhyV1YhyV1YhyV1YhyV1YhyV1Y" ++
  "hyV1YhyV1YhyV1YhyV1YhyV1YhyV1YhyV1YhyV1YhyV1YhyV1YhyV1YhyV1YhyV1YhyV1YhyV1YhyV1YhyV1YhyV" ++
  "1YhyV1YhyV1YhyV1YhyV1YhyV1YhyV1YhyV1YhyVpw62XWSY01Y01Y01Y01Y01Y01Y01Y01Y01Y01Y01Y01Y01Y0" ++
  "1Y01Y01Y01Y01Y01Y01Y01Y01Y01Y01Y01Y0Xc6YG1YG1YG1YG1YG1YG1YG1YG1YG1YG1YG1YG1YG1YG1YG1YG1Y" ++
  "G1YG1YG1YG1YG1YG1YG1YG1YG1YG1YG1YG1YG1YG1YG1YG1YG1YG1YG1YG1YG1YG1YG1YGa9YG1YG1YG1YG1YG1Y" ++
  "G1YG1YG1YG1YG1YG1YG1YG1YG1YG1YG1YG1YG1YG1YG1YG1YG1YG1YG1YG1YG1YG1YG1YG1YG1YG1YG1YG1YG1YG" ++
  "1YGaTYE1YE1YE1YE1YE1YE1YE1YE1YE1YE1YE2YE1YE1YE1YE1YE1YE1YE1YE1YE1YE1YE1YE1YE1YE1YE2YE1YE" ++
  "1YE1YE1YE1YE1YE2YE1YEXtBa01a01a01a01a01a01a01a01a01a01a01a01a01a01a01a01a01a01a01a01a01a" ++
  "01a01a01a01a01a01a01a01a01a01a01a01a01a01a01a01a01a01a01a01a01a01a01a01a01a01a01a01a01a0" ++
  "aUY01Y01Y01Y01Y01Y01Y01Y01Y01Y01Y01Y01Y01Y01Y01Y01Y01Y01Y01Y01Y01Y0YvRY01Y01Y01Y01Y01Y01" ++
  "Y01Y01Y01Y01Y01Y01Y01Y01Y01Y01Y01Y01Y01Y01Y01Y01Y01Y01Y01Y01Y01Y01Y01Y01Y01Y0ri1Y01Y01Y0" ++
  "1Y01Y01Y01Y01Y01Y01Y01Y01Y01Y01Y01Y01Y01Y01Y01Y01Y01Y01Y01Y01Y01Y01Y01Y01Y01Y01Y01Y01Y0." ++
  "r1Y41Y41Y41Y41Y41Y41Y41Y41Y41Y41Y41Y41Y41Y41Y41Y41Y41Y41Y41Y41Y41Y41Y41Y41Y41Y41Y41Y41Y4" ++
  "1Y41Y41Y41Y41Y4"

/-- Reads the entries of the table behind a character. -/
def entriesFrom (before : Nat) : List Nat → List (Nat × Nat)
  | gap :: move :: rest =>
    let c := before + gap
    (c, if move % 2 == 0 then c + move / 2 else c - (move + 1) / 2) :: entriesFrom c rest
  | _ => []

/-- Each character that folding changes, with what it becomes. -/
def folded : List (Nat × Nat) := entriesFrom 0 (Table.numbers table)

/-- The characters that fold like one in the set. -/
def close (s : CharSet) : CharSet :=
  let up := s.union (.ofList ((folded.filter fun e => s.hasCode e.1).map (·.2)))
  up.union (.ofList ((folded.filter fun e => up.hasCode e.2).map (·.1)))

end ScriptMatrix.Unicode.CaseFolding
