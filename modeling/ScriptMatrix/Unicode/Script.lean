import ScriptMatrix.Unicode.Partition

/-!
# `ScriptMatrix.Unicode.Script`: scripts that characters belong to

Every character has one script, and a few that are common to scripts, or
inherit theirs, are known to be used in certain ones only. Characters of
no known script have no set.
-/

set_option autoImplicit false

namespace ScriptMatrix.Unicode.Script

/-- The scripts by their names. -/
def partition : Partition where
  names := [
    ["zyyy", "common"], ["latn", "latin"], ["bopo", "bopomofo"],
    ["qaai", "zinh", "inherited"], ["grek", "greek"], [], ["copt", "qaac", "coptic"],
    ["cyrl", "cyrillic"], ["armn", "armenian"], ["hebr", "hebrew"], ["arab", "arabic"],
    ["syrc", "syriac"], ["thaa", "thaana"], ["nko", "nkoo"], ["samr", "samaritan"],
    ["mand", "mandaic"], ["deva", "devanagari"], ["beng", "bengali"], ["guru", "gurmukhi"],
    ["gujr", "gujarati"], ["orya", "oriya"], ["taml", "tamil"], ["telu", "telugu"],
    ["knda", "kannada"], ["mlym", "malayalam"], ["sinh", "sinhala"], ["thai"],
    ["lao", "laoo"], ["tibt", "tibetan"], ["mymr", "myanmar"], ["geor", "georgian"],
    ["hang", "hangul"], ["ethi", "ethiopic"], ["cher", "cherokee"],
    ["cans", "canadianaboriginal"], ["ogam", "ogham"], ["runr", "runic"],
    ["tglg", "tagalog"], ["hano", "hanunoo"], ["buhd", "buhid"], ["tagb", "tagbanwa"],
    ["khmr", "khmer"], ["mong", "mongolian"], ["limb", "limbu"], ["tale", "taile"],
    ["talu", "newtailue"], ["bugi", "buginese"], ["lana", "taitham"], ["bali", "balinese"],
    ["sund", "sundanese"], ["batk", "batak"], ["lepc", "lepcha"], ["olck", "olchiki"],
    ["brai", "braille"], ["glag", "glagolitic"], ["tfng", "tifinagh"], ["han", "hani"],
    ["hira", "hiragana"], ["kana", "katakana"], ["yi", "yiii"], ["lisu"], ["vai", "vaii"],
    ["bamu", "bamum"], ["sylo", "sylotinagri"], ["phag", "phagspa"],
    ["saur", "saurashtra"], ["kali", "kayahli"], ["rjng", "rejang"], ["java", "javanese"],
    ["cham"], ["tavt", "taiviet"], ["mtei", "meeteimayek"], ["linb", "linearb"],
    ["lyci", "lycian"], ["cari", "carian"], ["ital", "olditalic"], ["goth", "gothic"],
    ["perm", "oldpermic"], ["ugar", "ugaritic"], ["xpeo", "oldpersian"],
    ["dsrt", "deseret"], ["shaw", "shavian"], ["osma", "osmanya"], ["osge", "osage"],
    ["elba", "elbasan"], ["aghb", "caucasianalbanian"], ["vith", "vithkuqi"],
    ["todr", "todhri"], ["lina", "lineara"], ["cprt", "cypriot"],
    ["armi", "imperialaramaic"], ["palm", "palmyrene"], ["nbat", "nabataean"],
    ["hatr", "hatran"], ["phnx", "phoenician"], ["lydi", "lydian"],
    ["mero", "meroitichieroglyphs"], ["merc", "meroiticcursive"], ["khar", "kharoshthi"],
    ["sarb", "oldsoutharabian"], ["narb", "oldnortharabian"], ["mani", "manichaean"],
    ["avst", "avestan"], ["prti", "inscriptionalparthian"],
    ["phli", "inscriptionalpahlavi"], ["phlp", "psalterpahlavi"], ["orkh", "oldturkic"],
    ["hung", "oldhungarian"], ["rohg", "hanifirohingya"], ["gara", "garay"],
    ["yezi", "yezidi"], ["sogo", "oldsogdian"], ["sogd", "sogdian"], ["ougr", "olduyghur"],
    ["chrs", "chorasmian"], ["elym", "elymaic"], ["brah", "brahmi"], ["kthi", "kaithi"],
    ["sora", "sorasompeng"], ["cakm", "chakma"], ["mahj", "mahajani"], ["shrd", "sharada"],
    ["khoj", "khojki"], ["mult", "multani"], ["sind", "khudawadi"], ["gran", "grantha"],
    ["tutg", "tulutigalari"], ["newa"], ["tirh", "tirhuta"], ["sidd", "siddham"], ["modi"],
    ["takr", "takri"], ["ahom"], ["dogr", "dogra"], ["wara", "warangciti"],
    ["diak", "divesakuru"], ["nand", "nandinagari"], ["zanb", "zanabazarsquare"],
    ["soyo", "soyombo"], ["pauc", "paucinhau"], ["sunu", "sunuwar"], ["bhks", "bhaiksuki"],
    ["marc", "marchen"], ["gonm", "masaramgondi"], ["gong", "gunjalagondi"],
    ["maka", "makasar"], ["kawi"], ["xsux", "cuneiform"], ["cpmn", "cyprominoan"],
    ["egyp", "egyptianhieroglyphs"], ["hluw", "anatolianhieroglyphs"],
    ["gukh", "gurungkhema"], ["mro", "mroo"], ["tnsa", "tangsa"], ["bass", "bassavah"],
    ["hmng", "pahawhhmong"], ["krai", "kiratrai"], ["medf", "medefaidrin"],
    ["miao", "plrd"], ["tang", "tangut"], ["nshu", "nushu"], ["kits", "khitansmallscript"],
    ["dupl", "duployan"], ["sgnw", "signwriting"], ["hmnp", "nyiakengpuachuehmong"],
    ["toto"], ["wcho", "wancho"], ["nagm", "nagmundari"], ["onao", "olonal"],
    ["mend", "mendekikakui"], ["adlm", "adlam"]]
  table :=
    "0Y01P051P0XE100E10041M001U001k00X61404210J3ZF430042514300405340004000425040504J504XU6D4F" ++
    "7a4317b8508X5518XH5182509XM579Q53955AA400A500AD00A200AV00A93AAP30AZB00AX1BD50BXR51B2AXFC" ++
    "XH5DDXQ51D2EXD51EE50FR51F050BA54AU50A154AYA00ASGYG33GE01GPH350H751H151HL50H650H052H351H8" ++
    "51H151H357H053H150H451HO51I250I553I151IL50I650I150I150I151I050I453I151I252I056I350I056IG" ++
    "59J250J850J250JL50J650J150J451J950J250J251J05EJ351JB56J650K250K751K151KL50K650K150K451K8" ++
    "51K151K256K253K150K451KH59L150L552L250L352L150L050L152L152L252LB53L452L250L351L055L05DLK" ++
    "54MC50M250MM50MF51M850M250M356M150M251M051M351M956M8NC50N250NM50N950N451N850N250N356N155" ++
    "N150N351N950N25BOC50O250OXI50O250O553OF51OP50P250PH52PN50P850P051P652P053P550P050P755P95" ++
    "1P25BQXP5300QR5X4R150R050R450RN50R050RM51R450R050R650R951R35VSY750SX353SX650SX350SE50S60" ++
    "3S15X4TaVUX550U054U051UXA00U3VdVX0Y850X0351X0650X0050X0351X0X850X0351X0X050X0351X0650X00" ++
    "50X0351X0E50X0XO50X0351X0Y251X0V52X0P55X1YL51X1551X2pVX3S52X4YA02X4A56X5L58X50X6K0158X7J" ++
    "5BX8C50X8250X815BX9YT51X9955X9955XA101XA000XAJ55XAYO56XAXA54X2Y559XBU50XBB53XBB53XB052XB" ++
    "BXCT51XC45AXDXB53XDP55XDA52XD1X9VXER51XE1XFXU50XFS51XFA55XF955XFD513U5XGXGYC50XGXHXHXVXI" ++
    "XJ57XI3XJXN52XJE52XJ2XKXF7A54UXA51U2XH75732003C003603300530023100541X544701XG4413441C701" ++
    "Y5403XV1dV4L5145514X551455147504050405040504U514XK504E504D5145504I51425048500B310YM500A1" ++
    "0510A100E501C520X05E3X05E0X540021105100Q100G1X802530qP5L0A5K0yVXLdV0pJ510V500Z8XMYV1V6ZJ" ++
    "5466UX550U054U051XNXN56XN15DXN0X0M58X0650X0650X0650X0650X0650X0650X0650X06507V0YT5X1XOP5" ++
    "0XOYO5BXOcL5P0KXO000XO00OXO833V107XO30350XPYL513101XP200XQYP01XQ2542XA50VYT500F2V0X55800" ++
    "XQFVU500XVVU0YGXQXE00XQYN0b7XOcjV0XVXOqlVXRXaC52XRXM58XSXFXTfB5J7YVXUYN570X11Z5021Y25111" ++
    "501050175K1DXVXC520955Y0XN57Y1Y557Y1B55GVY2XD00Y20Y3X35AY30VS52Y4YD5000Y4953Y41TU50Y5XM5" ++
    "8Y5D51Y5951Y53TVY6Y25NY64Y7M59X0551X0551X0558X0650X06501XA001840130153X1YFY7XD51Y7955Vgz" ++
    "35BVM53VXG5ee3XOhD51XOZ95X5165B84549P50945090509150915099AZI5FAhA01AYF51AXL56A05VAF3F095" ++
    "53D710X2500I500353A450Aa65100500V1P051P0AXQ900XQXC01VU52V551V551V551V252065006590451Y8B5" ++
    "0Y8P50Y8I50Y8150Y8E51Y8D5X1Y8ZQ5402530XC52084YE500C52405XE0XC305a1Y9S52YAXG5E300Q53YBX35" ++
    "8YB2YCQ54YDXA54YET50YE0YFX353YFD5X9YGYFYHXFYIT51YI955YJX353YJX353YKX757YLXJ5AYL0YMA50YME" ++
    "50YM650YM150YMA50YME50YM650YM152YNXJ5BYOfM58YOL59YO75N15501X950185Y4YP551YP050YPXB50YP15" ++
    "2YP051YP0YQL50YQ8YRVYSU57YS85XFYTI50YT154YT4YUR52YU0YVP54YV05XVZ0VZ1N53Z1J51Z1XDZ2350Z21" ++
    "54Z2750Z2250Z2S51Z2253Z2956Z2856Z3VZ4V5VZ5X653Z5B58Z6XL52Z66Z7L51Z77Z8I54Z87Z9H56Z935BZ9" ++
    "65YFZAY85XMZBXI5CZBXI56ZB5ZCX757ZC955ZDX552ZDS57ZD15cFAU50ZEX950ZE251ZE15FA25XMA3ZFX757Z" ++
    "GX95LZHP5X5ZIR5JZJM58ZKYD53ZKX358ZK0ZLY259ZL051ZMO56ZM955ZNXK50ZNH57ZOX658ZPYV50PJ5AZQH5" ++
    "0ZQXE5XTZR650ZR050ZR350ZRE50ZRA55ZSXQ54ZS955ZT350ZT751ZT151ZTL50ZT650ZT150ZT45030ZT851ZT" ++
    "151ZT251ZT055ZT054ZT651ZT652ZT45AZU950ZU051ZU050ZUX550ZU950ZU051ZU050ZU350ZU950ZU157ZU15" ++
    "SZVYR50ZV45Ta0Y757a095b5a1XL51a1X55X1a2Y45Aa2955XAC5Ia3XP55a3955TJ5Ra4Q51a4E53a4M5bOa5XR" ++
    "5Z3a6YI5Ba60a7651a7051a7750a7150a7T50a7151a7B58a795Y5a8751a8XD51a8A5Qa9Y757aAYI5CX2FaBXO" ++
    "56G95bLaCX15DaC955aD850aDXC50aDD59aDS52aEV51aEL50aED5Y8aF650aF150aFXB52aF050aF150aF857aF" ++
    "955aG550aG150aGX450aG150aG556aG95fLaHO56aIG50aIX852aIS5YKXS05ELXH5CL0aJyP5Z5aJZE50aJ45Aa" ++
    "Jc35YoBaKZ25CaLXYL59aLZyQ54aMo65crOaNXP5Xs5XUnO56aOU50aO953aO1aPYE50aP955aQT51aQ559aRY55" ++
    "9aR950aR650aRK54aRI5jFaSXP5c5aTYQ5Z4aUYA53aUXO56aUG5XVaV0b00XO1b105AXO15DaVb_N57aVtVb1kL" ++
    "5X8b10aV85et6XQ350XQ650XQ150XQ0XPeUXQ25EXP05SXP251XQ05DXQ357b0iB5Ye3b2ZA54b2C52b2856b295" ++
    "1b23035ZwR0dP550jJ5YB3XD513M580ZJ5XR0dL590X6510XT320G3701360T330XS5K4Y55ZP0J5B0J5B0YM580" ++
    "O5a60YK500Y65001510051015103500B50005006500Y0500351075006500R5003500450005206500gJ510f35" ++
    "10XHb3qB5Eb3450b3E5XYF1U55155cKXM650XMG51XM650XM150XM4547XT5X0705ZFb4XC52b4D51b4953b415f" ++
    "Vb5U5Gb6XP54b605kFb7X95cLb8XA53b805kVX0650X0350X0150X0E50b9c451b9F5X8bAYB53bA953bA15uG0Y" ++
    "35YB0XS5c1A350AQ50A150A051A050A950A350A050A055A053A050A050A050A250A150A051A050A050A050A0" ++
    "50A050A150A051A350A650A350A350A050A950AG54A250A450AG5XJA15eD0XB530Z35B0E510E500E500X4590" ++
    "bD5XN0PXP0015C0XB530856015D055aP0.N530G520C520ZM530YU550B53005E0B530XN5709550X7570T510B5" ++
    "3015XT0gJ5B0D510C5209540XN560E510A5508560aI500Z55XW5XOXfsV5VXOaXP55XOcT51XObq15DXOdfG5EX" ++
    "OpD5Yj1XOmT5Xl1XOawA54XOaYV5rtYG005T0YV5ZV3dF5b_mF"

/-- The characters of a script, by any of its names. -/
def find? (name : String) : Option CharSet := partition.find? name

/-- The groups of scripts that share characters, by the scripts' numbers.
The first group has none: its characters are not shared. -/
def sharers : List (List Nat) := [
  [], [1, 4, 6, 30, 54, 56, 74, 76, 77, 81, 84, 95, 102, 120, 144, 162], [1, 7, 16, 17,
  26, 60, 165], [1, 2], [1, 60], [1, 26], [1, 4, 6, 7, 33, 44, 77, 140], [1, 4, 7, 33, 44,
  83, 87, 140], [1, 7, 33, 55], [1, 11, 26, 54, 140], [1, 4, 6, 7, 11, 33, 55, 76, 83, 85,
  87], [1, 6, 54, 58, 76, 84], [1, 4, 7, 77], [1, 6, 9, 11, 44, 55, 77, 87, 162], [1, 4,
  7, 8, 9, 11, 44, 76, 77, 162], [1, 55], [1, 11, 162], [1, 7, 33, 83], [1, 33, 44], [1,
  140], [1, 32], [1, 7, 87], [1, 4, 77, 87], [1, 11], [1, 11, 33, 58, 162], [1, 11, 33,
  162], [1, 11, 140], [1, 11, 33], [1, 26, 33, 76, 85, 140], [4], [1, 83], [1, 85, 87],
  [1], [4, 6], [7, 77], [7, 54], [1, 7], [8, 30, 54], [10, 11, 12, 13, 108, 109, 110],
  [10, 11, 12], [10, 11, 12, 13, 108, 109, 110, 170], [10, 11, 15, 101, 105, 108, 112,
  113, 170], [10, 11], [10, 12, 110], [10, 108], [1, 16, 17, 18, 19, 20, 21, 22, 23, 24,
  121, 125, 128], [1, 16, 17, 18, 19, 20, 21, 22, 23, 24, 125, 128], [16, 17, 18, 19, 20,
  21, 22, 23, 24, 25, 63, 120, 124, 125, 128, 131, 133, 136, 143, 144, 168], [16, 17, 18,
  19, 20, 21, 22, 23, 24, 25, 43, 63, 120, 124, 125, 128, 131, 133, 136, 143, 144, 151,
  168], [16, 117, 120, 133], [17, 63, 119], [18, 123], [19, 122], [21, 125], [23, 126,
  136], [29, 44, 119], [1, 30, 54], [36], [37, 38, 39, 40], [42, 64], [16, 17, 23, 125],
  [16], [16, 23, 125], [16, 17], [16, 121], [16, 20, 21, 22, 23, 24], [16, 136], [16, 17,
  20, 22, 23, 24, 25, 125, 126, 128, 136], [16, 125], [16, 23, 125, 126], [17], [136], [1,
  7, 11], [11], [1, 42, 64], [10, 170], [30, 54, 73, 74, 106, 107], [4, 74, 96, 107], [1,
  16, 125], [1, 6], [102, 106], [14, 30, 74, 95, 102, 107, 117], [162], [10, 107, 170],
  [56, 159], [2, 31, 42, 56, 57, 58, 59], [2, 31, 42, 56, 57, 58, 59, 64], [2, 31, 56, 57,
  58], [56], [2, 28, 31, 42, 56, 57, 58, 59], [2, 28, 31, 42, 56, 57, 58, 59, 60], [2, 31,
  56, 57, 58, 59], [2, 56], [57, 58], [56, 57, 58], [1, 56], [16, 18, 19, 23, 24, 117,
  120, 121, 122, 124, 126, 128, 130, 131, 133, 136], [16, 18, 19, 23, 117, 120, 121, 122,
  124, 126, 128, 130, 131, 133, 136], [16, 18, 19, 117, 120, 122, 124, 128, 130, 131,
  133], [16, 18, 19, 117, 120, 121, 122, 124, 128, 130, 131, 133], [16, 17, 126], [16,
  21], [1, 29, 66], [46, 68], [10, 13], [10, 12], [72, 89, 148], [72, 89], [72, 88, 89],
  [6, 10], [101, 113]]

/-- The shared characters: one run of characters after the other, with the
number of its group. -/
def shared : String :=
  "0bM100m320093000320040085000300X560708090A0B0C0D0E0F0G0H0I0J0K000J0L000M00BN001O0P0N006Q" ++
  "0N000R0S00FT001T00HU004V003X0C03X110eCX20X30X41X300e0X500a1X600DX60X7001X800VX9009XAA09X" ++
  "B905XA00Z2XC00pRXD0XE00GXF0XG0XH90ZLXI90ZLXJ90ZLXK90dLXLD0dHXM90wFXN90bGXO00XlEXP20Y6XQ1" ++
  "0cAXR100XR00Xc9XS0XT0XS0XU0XT0XV1Y00XV0Y00Y10XT0Y01XT1Y00XV0XT6Y20XV0XT1XV0XT3Y30Y40Y50X" ++
  "V1Y60Y41Y700c4T10XLY8000Y900nJYA00UYB009YC001YD00aHYE00Zf5YF00NYG0YH009YI003YJ000X300jBY" ++
  "KF00YL0YM0YN001YO000YP1YQ1YR500YN0YR7YN309YS301YN0YT400YN003YU1YO10YOYT302YT00YPYR0YT00a" ++
  "IYOF0VYOX508YK00XFYOX70XNYOXG0EYOB0XIYO00YNYOO09YO40YVYOU0ypFX300aFYV70f7Z02Z12Z21Z30Z20" ++
  "0bMZ4000Z500XPZ600aVZ700qxDZ810bHZ9009Z900Y6YN10ePYR409YT00XCYT10gVZA1ZB003ZCXC02ZB80iVZ" ++
  "DR0X_LZE00YWDXL000XL00XMXL10ZaIXL100XL00XdcBYI30brRYOH0dsTYO10.ZjD"

/-- The characters that are used in a script: its own, and those it shares
with others. A shared character does not count as its own. -/
def findExtended? (name : String) : Option CharSet :=
  (partition.index? name).map fun i =>
    let runs := Table.runs shared
    let others := CharSet.ofRanges (Table.select runs (· != 0))
    let chosen := sharers.map fun group => group.contains i
    ((partition.select (· == i)).diff others).union
      (.ofRanges (Table.select runs fun j => chosen.getD j false))

end ScriptMatrix.Unicode.Script
