import ScriptMatrix.Unicode.Partition

/-!
# `ScriptMatrix.Unicode.Age`: the version that brought a character

Versions are in ascending order. Characters that no version has brought
come last and have no name.
-/

set_option autoImplicit false

namespace ScriptMatrix.Unicode.Age

/-- The characters by the version that brought them. -/
def partition : Partition where
  names := [
    ["1.1", "v11"], ["2.0", "v20"], ["2.1", "v21"], ["3.0", "v30"], ["3.1", "v31"],
    ["3.2", "v32"], ["4.0", "v40"], ["4.1", "v41"], ["5.0", "v50"], ["5.1", "v51"],
    ["5.2", "v52"], ["6.0", "v60"], ["6.1", "v61"], ["6.2", "v62"], ["6.3", "v63"],
    ["7.0", "v70"], ["8.0", "v80"], ["9.0", "v90"], ["10.0", "v100"], ["11.0", "v110"],
    ["12.0", "v120"], ["12.1", "v121"], ["13.0", "v130"], ["14.0", "v140"],
    ["15.0", "v150"], ["15.1", "v151"], ["16.0", "v160"], []]
  table :=
    "0lL330T3750603H627A8D0YO34610XE3009346G0Y5385067746201305C930191R1008200F0R306R000R00JR0" ++
    "0XB9006305100300030003000300H41506473300B300Y1300B300X8903151330XK5101510151800R31077101" ++
    "855F839FA1B1F7R00X5R106J00X6J00030R1F1C0R01G701C0980081072R70QR3J004RA63C0F0947000689400" ++
    "E0N07000B00P940I326275B00D510Y73104300E300T610934603DR03T623QR1627T9H3XG50RD8XQR1J2AXDR1" ++
    "AER0BRR1B0R0IAR4NUR0N1R4Q0N7C0F0CAF5G1N0H7M9NAJ0HEG0CQF0A002600XKB10HA0B004A0B10O91B4F0A" ++
    "1817081F002R007R101R10LR006R000R203R1006006R101R10270R700R301R004R10KA0I1J0R1600060R005R" ++
    "301R10LR006R001R001R001R100R004R301R102R290R603R000R60E90J0R902R0066000R002R00LR006R001R" ++
    "004R109R002R002R100RE0062R109C060R6G0I5R002R007R101R10LR006R001R06003R10790R101R102R6M00" ++
    "1R301R00291R10A60B5R901R005R202R003R201R000R001R201R202R2077002R304R202R003R190R500RD700" ++
    "B67R4F002J007R002R00MR009F004R1N09006R002R003R601R091G0R1N0R10191R109R6K097H0F001J007R00" ++
    "2R00MR009R004R16106R002R003R601R5N000R00181R109R081O0RBI0F001M007R002R00MB00FB0I1900590R" ++
    "002R003B0H0R3H200H6G00191R10995H296R0M031R03HR23NR038R030R136R230R335R030R037R5F9R132RB0" ++
    "XPR30SRX401R000R0K001K000R0K000K503K006K002R000R000K101K00CK002R104R000R005O0R009R101C1R" ++
    "V1Y7R01X03091R31QB3153010R01K3216301032R03ER090307192A3B1RX43X19034903190369233953P9XVA3" ++
    "910X5R0C0R4C0R10X651710070C20YPA40Y3A40YHA536703XU7030R033R136R030R033R13X67030R033R13U7" ++
    "030R033R136R030R033R1367036R03M703U7030R033R136703X6703IR1B1713RR27PR53YKG0R1G5R1A03pLA8" ++
    "3SR23YGF7R65CN056N0R8N05MR85JRB5CR052R051RB3YS60R139R569R53EN039R53YNJ0R63X990R4AY5R96SF" ++
    "1R06BR36BR360R26X9R164RA7X9A1R37PR579A0R2716V7RR171AXUR0ASR1AAR5A9R5ADR1FEM1NDRXG8YBN0R0" ++
    "Q18XCN1Q09XAC29BC5BXJR7B39XNR29ER29XIH8Q1R4JXAR1J2C7R7AX2C3I0F1K0R46ZB7YN869RFEI3N0H0B0A" ++
    "0810aQ10930YP950LR105R10X5R105R107R000R000R000R00UR10XKR00ER00DR105R00IR102R008R00XE300M" ++
    "503554617150765490R0E30650R10QR074B7R20A1020325173A2B0D0F2G0I0N0RE0H3156708390RE0XO31607" ++
    "05E708190A20XF308093A0G1R30YQ385B0dH5D00300ZO30503T5XJ617A8BA0BAF6H3I00X431Q2RL0ARK0aA5J" ++
    "600aL590YF37570J615170300YL315B7159677A90A1617F8099A293A9B0AIB0A0B3ANF003B003B10RB00X2B0" ++
    "00B003B200A006B1065D0UB20NB00DB07683C090C0B15R935F3dV5lV6D758694839X8F294A4FPR1FVR0M0FX1" ++
    "J2FBK0F7I0JOG3JEK07XEN07XEN08C92A0928395A17ZAA6C1R47XCR0C0R4C0R17XLC1R670B0RDB07MR876R07" ++
    "6R076R076R076R076R076R076R09V7N93719IA0C9F6H1I4J4K0M2NARX13PR03YORB3cLRP3BP30XN32523000R" ++
    "00YJ51R105510YT50R40X790I0J0R00YTR00F3NB2M47F9JQ1R8P05F0S61R00X3AB605E0R61700XH5E0B630XE" ++
    "L00ZM630Z2610U603cjLM96XV0qj57L97A7C0G8IKJ4MCN23XaCR23H513F503B50325030R8AXF9fBRJ9VB19HC" ++
    "79RF5G0C0AYNR77M8394819ZAB1G0B1C1FBB9C0F2H0J0F1G5J1K5N1K4M3Q2R1N1R0N0R0N4Q2RKN2M1F0C1B09" ++
    "47XBM0R2A9R58XNR79Y4H0R79BR5ARG1J19YJRA90ASR2AYDR0AAR3A1FUR09XMR89DR199R193ARF3AY2RNA4CM" ++
    "R9B5R1B5R1B5R8B6R0B6R0FXFG3F1K1M3R3GYFAXDR1A9R51gz3RBAMR3AXGRYW30cnDC15XQA2R17Z9RX506RB0" ++
    "4R4300OR004R000R001R001R00ZBBFN0RF0hCNF0XVR10XLR6N04V0B5060N15F79R50392F6G10K516109R00IR" ++
    "003R3025000R00a6R100R00YT510YTR205R105R105R102R206R006R93220026BR06PR06IR061R06ER16DRX16" ++
    "ZQR462R36XCR2687YAF1H1R09BM0R2F0RXE9XDRa19SR29XGREFRR34UF043R8I24QR4FXAR46TR0607X3R37DRX" ++
    "94X5614X56YFR169R5HX3R3HX3R3FX7R7FXJRAF0NAR0NER0N6R0N1R0NAR0NER0N6R0N1R2QXJRBFfMR8FLR9F7" ++
    "RNN5R0NX9R0N8RY465R160R06XBR061R260R160ALR0A8FXUR7F8RXFGIR0G1R4G48PA1R2809PR490RXVCXNR3G" ++
    "1C1GFR1GXD73R071R477R072R07QJ1R172R378J0R678R6AVFVRVFX6R3FBR8AXLR2ASR1AQR4A7FHR6F3RBF6RY" ++
    "FAY8RXMGXIRCGXIR6G5JX7R7J9R5QX5R2QSR7Q1RcFAUR0MX9R0M2R1M1RFQ2RXMQ0O2JX7R7JX9RLNPRX5MRRJK" ++
    "MR8BYDR3BTN5R8F0AY1N0R9J0R1COR6C9R5CXKR0CDJ2M0R7FX6R8CY8G3F0M1C9F0G4R0FJRAFHR0FXAH0O2RXT" ++
    "G6R0G0R0G3R0GER0GAR5FXQR4F9R5G0F2R0F7R1F1R1FLR0F6R0F1R0F4R0J0F8R1F1R1F2R1G0R5F0R4F6R1F6R" ++
    "2F4RAQ9R0Q0R1Q0R0QX5R0Q9R0Q0R1Q0R0Q3R0Q9R0Q1R7Q1RSHYPM0H0R0H0J0K0M1RTFY7R7F9Rb5FXLR1FHGJ" ++
    "RX1FY4RAF9R5HCRICXNK0N0R5C9R5QJRRGPJ0R1GER3GFN6RbOJXRRZ3FYIRBF0M6R1M0R1M7R0M1R0MTR0M1R1M" ++
    "BR8M9RY5K7R1KXDR1KARQIY7R7IXJK1IMJ0I4RCNFFXOR6O9RbLQX1RDQ9R5H8R0HXCR0HDR9HSR2HVR1HLR0HDR" ++
    "Y8I6R0I1R0IXBR2I0R0I1R0I8R7I9R5J5R0J1R0JX4R0J1R0J5R6J9RfLJOR6OGR0OX8R2ORQ0RYKM0REKXHRCK0" ++
    "8xEFX9G0RZ58Z2FBR083F0RAGc3RYoBNZ2RCAXXEO0K8OSR9QZyQR4Go6RcrOQXPRXs5BnOR6FUR0F9R3F1NYER0" ++
    "N9R5FTR1F5R9FY5R9F9R0F6R0FKR4FIRjFQXPRc5JYQRZ4CY4K5R3K0CXEK8R6CGRXVH0I0K1M0RAM1RDHb_CJ4K" ++
    "5R7HtIMl2RX8Q0M8Ret6N3R0N6R0N1R0B1IeSN3REO0RSK2R1O0RDK3R7IiBRYe3FZAR4FCR2F8R6F9R1F7RZwRQ" ++
    "dPR5QjJRYBNXDR1NMR8NZJRXR4dLR94X6R1904bJGAN1RK7Y5RZPOJRBJJRB6YMR88HJ6Ra64YKR04Y6R041R140" ++
    "R141R143R04BR040R0436041R04Y0R043R147R046R04RR043R044R040R246R04gH71R14f181R14XHGqBREG4R" ++
    "0GERXYFNUR5O5RcKH6R0HGR1H6R0H1R0H4R4OXTRX0O0RZFKXCR2KDR1K9R3K1RfVNURGKXPR4K0RkFOX9RcLQXA" ++
    "R3Q0RkVN6R0N3R0N1R0NER0Fc4R1FFRX8HYAK0R3H9R3H1RuGJY3RYBKXSRc1C3R0CQR0C1R0C0R1C0R0C9R0C3R" ++
    "0C0R0C0R5C0R3C0R0C0R0C0R0C2R0C1R0C0R1C0R0C0R0C0R0C0R0C0R0C1R0C0R1C3R0C6R0C3R0C3R0C0R0C9R" ++
    "0CGR4C2R0C4R0CGRXJC1ReD9XBR39Z3RBBER1BDF0R0BER0BEFLR9AAF1M2AUJ0B0A0BAA0B0A0B1A0B2A0B2A4B" ++
    "7A0B6A0B9C1K0M2B8A0B0A1B1A0B9A3B1A0B9HHM0RXNBPA0B1RCAX1B8H0R3A8R6B1RDI5RaPBX0FBG2B5F0BY5" ++
    "F0G1BJFBBX4F0B4F3G4FBBGF6G7BXUF0B0F0BbLF0B3F1G0BXTF1C3F6G4BNFHH0FX8H0FYLB4C0BFC0B2C0B0C0" ++
    "B0C0B0C0B2C0B5C1B3C0B0C1B3C0BBF1G1BAFXFBY5F9G0H1I1K0M1R3O0N2FCR2F3H2I1J0K0M1R2BZJO2R3O4F" ++
    "YKJ3O0R5KBR3N0REFBR3FXNR7F9R5FX7R7FTR1M1Q9R3Q1RXTIBM0K2G8H5I0H7I7H0I1HBK0HBI0J2HEICJ4K0M" ++
    "0J3M1N0J0K0J3G4HCI5JAM1K5M2K1J9K5G0J1K7M0N0K2IMJOKYJRBJDR1K3M0O2K2N1R2K2M3O1Q0R4Q0K5MIN3" ++
    "O2M6N3O2Q0O0M2N2Q0R6O1M6N2O1Q0R1Q0N7O0Q0R5N6O1R6MaIR0MXMQX4M9RXW3114XfsMM6N1RVAaXKN3O0R5" ++
    "BcTR1Gbq1RDIdfGREPpDRYj14mTRXkV11MawAR4OaYVRXtYD11RX__T11RX__T11RX__T11RX__T11RX__T11RX_" ++
    "_T11RX__T11RX__T11RX__T11RX__T11R040RT4YVRZV6dFRX_mD1aWW1"

/-- The characters that are there in a version. -/
def find? (name : String) : Option CharSet :=
  (partition.index? name).map fun i => partition.select (· ≤ i)

end ScriptMatrix.Unicode.Age
