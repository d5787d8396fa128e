import ScriptMatrix.Unicode.Partition

/-!
# `ScriptMatrix.Unicode.Break`: where text may be divided

Three partitions say how a character counts when text is divided into
characters as users see them, into words and into sentences. What counts
as anything else has no name.
-/

set_option autoImplicit false

namespace ScriptMatrix.Unicode.Break

/-- How characters count within what users see as one. -/
def grapheme : Partition where
  names := [
    ["cn", "control"], ["lf"], ["cr"], [], ["ex", "extend"], ["pp", "prepend"],
    ["sm", "spacingmark"], ["l"], ["v"], ["t"], ["zwj"], ["lv"], ["lvt"],
    ["ri", "regionalindicator"]]
  table :=
    "091001200H3YU0X03C003oH4ZF3eI463e64XC30403041304130403XN55394A30003XD4K3F403Z44650304531" ++
    "4130433X05030403T4Q3YQ4A3XP4838403N433048304230443XA423XJ5134483X94N504V603XL40604030624" ++
    "7634061304639413S40613XN40304061433161316140384039413P403141603XN403062413341314232403T4" ++
    "132403A41603XN403062443041603061403J413L453040613XN40304160433161316140364239413T403XQ40" ++
    "604061326230624038403X74062403XM403042633042304336413A413S40613XN40306041604061304230433" ++
    "6413A413E603B41613XM4130406143306230624050374039413S40613Y5403340614230403066403H613XS40" ++
    "3060463B473Z1403060483A463Y8413Q403040304033613XG4D60443041344A304X338403Z54360453041614" ++
    "13M614133423F433C4030604135403E403Z17YV8Y79YN3gS423zH433R423S413T413XV4160466740614A3840" ++
    "3XC4200403ZK413X1403ZL4263416233614065423cQ4161403XO60406046304030403147654931403XF4U3XG" ++
    "43603XE4963423X5483B41603T604361453XN406041624060443XF674761413aN42304C60463340354031604" ++
    "13c54XV3mA0040A0013N063XG0F3YV4X03Y_T423aC403YV4V3n9453Z8413zkJ4330493V413YF413eF4032403" ++
    "3403M61416033403YI613XH6F413P4H3C403X5473O4A60403B7S3242603XE406143614161403X3403Y245614" ++
    "161413B403740603XD403XI4030423141344130403X86041613460403dB61406140613060403HB0CQB0CQB0C" ++
    "QB0CQB0CQB0CQB0CQB0CQB0CQB0CQB0CQB0CQB0CQB0CQB0CQB0CQB0CQB0CQB0CQB0CQB0CQB0CQB0CQB0CQB0C" ++
    "QB0CQB0CQB0CQB0CQB0CQB0CQB0CQB0CQB0CQB0CQB0CQB0CQB0CQB0CQB0CQB0CQB0CQB0CQB0CQB0CQB0CQB0C" ++
    "QB0CQB0CQB0CQB0CQB0CQB0CQB0CQB0CQB0CQB0CQB0CQB0CQB0CQB0CQB0CQB0CQB0CQB0CQB0CQB0CQB0CQB0C" ++
    "QB0CQB0CQB0CQB0CQB0CQB0CQB0CQB0CQB0CQB0CQB0CQB0CQB0CQB0CQB0CQB0CQB0CQB0CQB0CQB0CQB0CQB0C" ++
    "QB0CQB0CQB0CQB0CQB0CQB0CQB0CQB0CQB0CQB0CQB0CQB0CQB0CQB0CQB0CQB0CQB0CQB0CQB0CQB0CQB0CQB0C" ++
    "QB0CQB0CQB0CQB0CQB0CQB0CQB0CQB0CQB0CQB0CQB0CQB0CQB0CQB0CQB0CQB0CQB0CQB0CQB0CQB0CQB0CQB0C" ++
    "QB0CQB0CQB0CQB0CQB0CQB0CQB0CQB0CQB0CQB0CQB0CQB0CQB0CQB0CQB0CQB0CQB0CQB0CQB0CQB0CQB0CQB0C" ++
    "QB0CQB0CQB0CQB0CQB0CQB0CQB0CQB0CQB0CQB0CQB0CQB0CQB0CQB0CQB0CQB0CQB0CQB0CQB0CQB0CQB0CQB0C" ++
    "QB0CQB0CQB0CQB0CQB0CQB0CQB0CQB0CQB0CQB0CQB0CQB0CQB0CQB0CQB0CQB0CQB0CQB0CQB0CQB0CQB0CQB0C" ++
    "QB0CQB0CQB0CQB0CQB0CQB0CQB0CQB0CQB0CQB0CQB0CQB0CQB0CQB0CQB0CQB0CQB0CQB0CQB0CQB0CQB0CQB0C" ++
    "QB0CQB0CQB0CQB0CQB0CQB0CQB0CQB0CQB0CQB0CQB0CQB0CQB0CQB0CQB0CQB0CQB0CQB0CQB0CQB0CQB0CQB0C" ++
    "QB0CQB0CQB0CQB0CQB0CQB0CQB0CQB0CQB0CQB0CQB0CQB0CQB0CQB0CQB0CQB0CQB0CQB0CQB0CQB0CQB0CQB0C" ++
    "QB0CQB0CQB0CQB0CQB0CQB0CQB0CQB0CQB0CQB0CQB0CQB0CQB0CQB0CQB0CQB0CQB0CQB0CQB0CQB0CQB0CQB0C" ++
    "QB0CQB0CQB0CQB0CQB0CQB0CQB0CQB0CQB0CQB0CQB0CQB0CQB0CQB0CQB0CQB0CQB0CQB0CQB0CQB0CQB0CQB0C" ++
    "QB0CQB0CQB0CQB0CQB0CQB0CQB0CQB0CQB0CQB0CQB0CQB0CQB0CQB0CQB0CQB0CQB0CQB0CQB0CQB0CQB0CQB0C" ++
    "QB0CQB0CQB0CQB0CQB0CQB0CQB0CQB0CQB0CQB0CQB0CQB0CQB0CQB0CQB0CQB0CQB0CQB0CQB0CQB0CQB0CQB0C" ++
    "QB0CQB0CQB0CQB0CQB0CQB0CQB0CQB0CQB0CQB0CQB0CQB0CQB0CQB0CQB0CQB0CQB0CQB0CQB0CQB0CQB0CQB0C" ++
    "QB0CQB0CQB0CQB0CQB0CQB0CQB0CQB0CQB0CQB0CQB0CQB0CQB0CQB0CQB0CQB0CQB0CQB0CQB0CQB0CQB0CQB0C" ++
    "Q3B8M339XG3ev1403t04F3F4F3cE003aT413YF0B3m0403d1403aK443Xq542304134433X74233403b4413nS43" ++
    "3Y0443fS413YE433Y54A3XG433ZP6040603XK4E3X84031413942603XC624361413150334039503XH423X3446" ++
    "0473F613XB403B41603XF62486040305134433060403YR62426143354031403aS4062473K41613XM41304060" ++
    "4063316131614038403961314632443Y24061453040314030426030614250403D413YH6247614260403M403Y" ++
    "G40614560406140604160413dA40614331634160413Q413YH6247614060413Z940604061473Z440604031436" ++
    "0443dV624860413dK40643061314350605060403aC62433141634032603R493X7456050433740384561423X7" ++
    "554C60413iK6046304560403YH4L306046604160413ZP4532403041304650403Y164304130614060403gQ416" ++
    "1384150603XF61443261423M403bcK0F40354E3hc74B62423YjV443XQ463nB8032833l340306XM36433YG403" ++
    "A413pbA4130033aoR4XD314M3mT443245074731463T433aJ423XzQ4XM334XH37403D403L44304E3XgF46304G" ++
    "3146304130443Z3403aV463hM403XS433lR433dT413sV463ZC463YaQDP3lQ443uY_V0V4YV0ZV4dF0ZmF3bx_V"

/-- How characters count within words. -/
def word : Partition where
  names := [
    [], ["lf"], ["nl", "newline"], ["cr"], ["wsegspace"], ["dq", "doublequote"],
    ["sq", "singlequote"], ["mn", "midnum"], ["mb", "midnumlet"], ["nu", "numeric"],
    ["ml", "midletter"], ["le", "aletter"], ["ex", "extendnumlet"], ["fo", "format"],
    ["extend"], ["hl", "hebrewletter"], ["zwj"], ["ka", "katakana"],
    ["ri", "regionalindicator"]]
  table :=
    "091021300H4000500360037000800099A07004BP03C000BP09200X3B001D006B000A001B004BM00BU00BkV05" ++
    "BX1EZFB400B101B370B005B0A0B200B000BJ00BYI00BaA00E6Bb500BX501B300B0A0BX870B005EXC00E000E1" ++
    "00E100E007FQ03F3B0A00A95057101EA00D002BXAEK9900907000B1E0BZ200B0E69000E5B1E100E3B199B201" ++
    "B00EB1E0BTEQ01BYOEAB00D99BX0E8B1017000B001E001BLE3B0E8B0E2B0E40HBOE203BA04BN00B5009104E8" ++
    "BX9EN90EX0BXLE2B0EHB0E6B9E1019900BFE200B701B101BL00B600B002B301E0B0E601E101E2B007E003B10" ++
    "0B2E10199B109B000E001E200B503B101BL00B600B100B100B101E000E403E101E202E006B300B00699E1B2E" ++
    "00AE200B800B200BL00B600B100B401E0B0E700E200E201B00EB1E1019908B0E500E200B701B101BL00B600B" ++
    "100B401E0B0E601E101E206E203B100B2E1019900B00FE0B000B502B200B302B100B000B102B102B202BB03E" ++
    "402E200E301B005E00D990FE4B700B200BM00BF01E0B0E600E200E306E100B201B001B1E101990FB0E200B70" ++
    "0B200BM00B900B401E0B0E600E200E306E105B100B1E1019900B1E00BE3B800B200BX8E1B0E600E200E3B004" ++
    "B2E006B2E1019909B500E200BH02BN00B800B001B602E003E500E000E7059901E10XSE001E60BE700990YME0" ++
    "01E80AE600990X5B00ME105990AE000E000E003E1B700BX303EJ00E1B4EA00EX308E00Z3EJ00990BE303E200" ++
    "E201E602E30CEB00E099E301BX500B004B001BXA00BgC00B301B600B000B301BX800B301BX000B301B600B00" ++
    "0B301BE00BXO00B301BY201E20VBF0FBYL01B502BpB01BG40BP04BYA02BA06BHE308BIE20ABHE10BBC00B200" ++
    "E10XVEV08E001990X0E2D0E09905BYO06B4E1BX1E0B004BY509BU00EB03EB09990ZV9A0X4BME40XOE900ES01" ++
    "E09905990LEU0XGE4BXEEGB702990GE80BE2BTECB199BXBED0BBX3EJ079902B299BX301BA04BXA01B20FE200" ++
    "EKB3E0B5E0B1E2B004BbVEXVBeL01B501BX501B501B700B000B000B000BU01BXK00B600B002B200B602B301B" ++
    "503BC04B200B60246004200E0G0D10781098001A021D4C00EC102700EC00940D400D900B00CB00FBC0XIEX00" ++
    "GB003B001B900B002B405B000B000B000B300BA01B304B403B00GBX80vCBXJ0XuLBd405B3E2B10BBX500B004" ++
    "B001BXN06B00EE0BM08B600B600B600B600B600B600B600B600EV0XEB00kF4003B00X3E500H404B10YRE1H10" ++
    "2HYQ00H304BXA00BYT0GBV0XFHF0cFHXE00HYN0xb7BXaC0Y2BXD01BeC02BF99B10JBXEE300E900BUE1BYFE10" ++
    "LBc501B100B000B70KBFE0B2E0B3E0BME403E00IBXJ0BE1BXHEH099905EHB502B000B1E099BRE701BMEC0BBS" ++
    "02E3BXEED0DB0990AE0099905BX8ED08B2E0B7E101990X0E20XHE000E201E104E100E00TBAE401B2E109B501" ++
    "B501B508B600B600BXP05BZIE700E1019905Bgz30BBM03BXG0eu3B60BB404F0E0F900FC00F400F000F100F10" ++
    "0F9BZ10X0BhA0HBXV01BXL0X7BB03EF02A00BEF02C10NC27000800070A00PB400Ba601D00680037000800099" ++
    "A07004BP03C000BP0AHXNE1BU02B501B501B501B20RD203BB00BP00BI00B100BE01BD0X1BZQ0Y4BXK0a7E00a" ++
    "1BS02BXG0EE00UBV0CBT04BX5E404BT01BX303B700B40X9BaT019905BX303BX303BX707BXJ0BBA00BE00B600" ++
    "B100BA00BE00B600B102BXJ0BBfM08BL09B70NB500BX900B80Y4B501B000BXB00B102B001BM09BM08BU0Y0BI" ++
    "00B109BL09BP0Y5BXN05B10XVB0E200E104E3B300B200BS01E203E00VBS02BS0X2B700BRE10OBXL09BL09BI0" ++
    "CBH0ZDBY80XMBXI0CBXI0CBX3E307990599BR02E400BM0dPBX900E102B10FB20XME3BS09B007BLEA0UBHE30X" ++
    "9BK0QBM08E2BXKEE0U99E0B1E1B008E3BXCEA019003E0099001BO069905E2BX3ED009903B0E1B007BX2E001B" ++
    "008E2BXFEDB303E300E199B000B00X2BH00BOEB05E0B1E00XTB600B000B300BE00B906BXEEB049905E300B70" ++
    "1B101BL00B600B100B400E1B0E601E101E201B005E004B4E101E602E40AB900B001B000BX500B0E800E001E0" ++
    "00E300E4B0E0B00CE10SBXKEHB3049903E0B20TBXFEJB100B007990b5BXEE601E80MB3E10X1BXFEG02B00A99" ++
    "0X5BXAECB00699059J0XOEE03990c5BXBEE0Z4BXV990KB701B001B700B100BNE500E101E3B0E0B0E10B990Y5" ++
    "B701BX6E601E6B000B0E00QB0E9BX7E6B0E307E007B0EABXDEF02B00HBY80c6BX00E9905B800BX4E700E7B00" ++
    "E990NBT01EL00ED0Y8B600B100BX5E502E000E100E6B0E0079905B500B100BVE400E100E4B006990fLBIE308" ++
    "E1B0E0BC00BX1E602E40C99E00YKB00YEByP0Z5BZE0GBc30YoBBZ00EBXXFDFE0B5EE09BZyQ04Bo60crOBTEH9" ++
    "90Xs5BnO06BU009905BYE009905BT01E40ABXFE608B30B9908BK04BI0jFBXC02990c5BXV0ZVBYA03E0B0EXM0" ++
    "6E3BC0XVB100B0E00AE10l_TH300H600H100H00eUH20XHH00DH30YqNBZA04BC02B806B902E100D30aYB990m5" ++
    "EXD01EM0mTE402E5D7E701E60TE30aJE20jQBYK00BY600B101B001B101B300BB00B000B600BY000B301B700B" ++
    "600BR00B300B400B002B600BgJ01BO00BO00BU00BO00BU00BO00BU00BO00BU00BO00B7019XH0lVEXM03EXH07" ++
    "E00DE00LE400EE0XYFBU05B50cKE600EG01E600E100E404BXT0X0E00ZFBXC02E6B6019903B00g0BTE00GBXBE" ++
    "3990kLBRE3990cLBTE1B0990l4B600B300B100BE00Bc40AE60X8BY3E6B003990Xb5B300BQ00B100B001B000B" ++
    "900B300B000B005B003B000B000B000B200B100B001B000B000B000B000B000B100B001B300B600B300B300B" ++
    "000B900BG04B200B400BG0pJBP05BP05BP0YRIP0lQE40X_F990uXW6D00TEYV0ZVEdF0b_mF"

/-- How characters count within sentences. -/
def sentence : Partition where
  names := [
    [], ["sp"], ["lf"], ["cr"], ["st", "sterm"], ["cl", "close"], ["sc", "scontinue"],
    ["at", "aterm"], ["nu", "numeric"], ["up", "upper"], ["lo", "lower"], ["se", "sep"],
    ["fo", "format"], ["le", "oletter"], ["ex", "extend"]]
  table :=
    "08102011300H10405003520161700089610240009P50005002AP50005006B00P1008A05000C006A003A05003" ++
    "9M0096AN00A790A090A090A090A090A090A090A090A090A090A090A090A090A090A090A090A090A090A090A0" ++
    "90A090A090A090A090A090A090A090A090A190A090A090A090A090A090A090A090A190A090A090A090A090A0" ++
    "90A090A090A090A090A090A090A090A090A090A090A090A090A090A090A090A090A090A091A090A090A291A0" ++
    "90A091A092A193A091A092A291A091A090A090A091A090A190A091A092A090A091A1D090A2D391A091A091A0" ++
    "90A090A090A090A090A090A090A090A190A090A090A090A090A090A090A090A090A191A090A092A090A090A0" ++
    "90A090A090A090A090A090A090A090A090A090A090A090A090A090A090A090A090A090A090A090A090A090A0" ++
    "90A090A090A090A090A691A091A190A093A090A090A090A090AY4D0AX3D6A103DB0DA406D000D00GEZF90A09" ++
    "0A0D00090A001A360900590009200900091A09G0098AX290A192A290A090A090A090A090A090A090A090A090" ++
    "A090A090A090A490A00090A091A19XIAXF90A090A090A090A090A090A090A090A090A090A090A090A090A090" ++
    "A090A090A090A000E690A090A090A090A090A090A090A090A090A090A090A090A090A090A090A090A090A090" ++
    "A090A090A090A090A090A090A090A090A090A091A090A090A090A090A090A090A190A090A090A090A090A090" ++
    "A090A090A090A090A090A090A090A090A090A090A090A090A090A090A090A090A090A090A090A090A090A090" ++
    "A090A090A090A090A090A090A090A090A090A090A090A090A090A090A090A090A090A090A090A090A0009X50" ++
    "1D0026001AX84006EXC00E000E100E100E007DQ03D40B85056101EA00C042DXAEK89008100D1E0DZ240D0E68" ++
    "000E5D1E100E3D189D201D0420BC0D0E0DTEQ01DYOEAD00D89DX0E8D1016040D001E001DLE3D0E8D0E2D0E40" ++
    "8400040024100DOE203DA04DN00D5008104E8DX9EN80EX0DXLE2D0EHD0E6D9E1418900DFE200D701D101DL00" ++
    "D600D002D301E0D0E601E101E2D007E003D100D2E10189D109D000E001E200D503D101DL00D600D100D100D1" ++
    "01E000E403E101E202E006D300D00689E1D2E00AE200D800D200DL00D600D100D401E0D0E700E200E201D00E" ++
    "D1E1018908D0E500E200D701D101DL00D600D100D401E0D0E601E101E206E203D100D2E1018900D00FE0D000" ++
    "D502D200D302D100D000D102D102D202DB03E402E200E301D005E00D890FE4D700D200DM00DF01E0D0E600E2" ++
    "00E306E100D201D001D1E101890FD0E200D700D200DM00D900D401E0D0E600E200E306E105D100D1E1018900" ++
    "D1E00BE3D800D200DX8E1D0E600E200E3D004D2E006D2E1018909D500E200DH02DN00D800D001D602E003E50" ++
    "0E000E7058901E10CDXFE0D1E604D6E700890X6D100D000D400DN00D000D9E0D1E8D001D400D000E6008901D" ++
    "30VD00ME105890AE000E000E053E1D700DX303EJ00E1D4EA00EX308E00XODXAEJD0894103D5E3D3E2D0E2D1E" ++
    "6D2E3DCEBD0E089E3019X50090049001DXA00A0DgB00D301D600D000D301DX800D301DX000D301D600D000D3" ++
    "01DE00DXO00D301DY201E2014003410MDF0F9YL01A502DpB0040DG10DP5102DYA02DA06DHE308DIE24108DHE" ++
    "10BDC00D200E10BDXJEV4100D003D0E001890N604003604000E2C0E08905DYO06D4E1DX1E0D004DY509DU00E" ++
    "B03EB074189DT01D40ADXB03DP058A0X4DME403DXKE900ES01E08905890CD04303EU0XGE4DXEEGD700418941" ++
    "01410AE80842E2DTECD189DXBED0BDX3EJ0241028902D289DX341A890A004DXA01D20FE200EKD3E0D5E0D1E2" ++
    "D004AbVEXV90A090A090A090A090A090A090A090A090A090A090A090A090A090A090A090A090A090A090A090" ++
    "A090A090A090A090A090A090A090A090A090A090A090A090A090A090A090A090A090A090A090A090A090A090" ++
    "A090A090A090A090A090A090A090A090A090A090A090A090A090A090A090A090A090A090A090A090A090A090" ++
    "A090A090A090A090A090A090A090A090A090A090A090A890A090A090A090A090A090A090A090A090A090A090" ++
    "A090A090A090A090A090A090A090A090A090A090A090A090A090A090A090A090A090A090A090A090A090A090" ++
    "A090A090A090A090A090A090A090A090A090A090A090A090A090A090A090A090A897A5019501A797A797A501" ++
    "9501A70090009000900090A797AD01A797A797A797A400A19400A002A200A19402A301A19303A79404A200A1" ++
    "94021AC0E1C102610257037002B1C410085100410651420K10C400C900A00A51A00C5100AC0XIEX00G900390" ++
    "01A092A192A000900294059000900090009300A093A0D3A001A1910490A303A00G9FAFD290A0D30hU530S510" ++
    "iA9PAP0pG55065D0YE510U590iI5L0XU530V510m19XFAXF90A092A190A090A090A093A090A190A792A090A09" ++
    "0A090A090A090A090A090A090A090A090A090A090A090A090A090A090A090A090A090A090A090A090A090A09" ++
    "0A090A090A090A090A090A090A090A090A090A090A090A090A090A090A090A090A090A090A090A090A090A09" ++
    "0A090A090A090A10590A090A0E290A0044203AX500A004A001DXN06D00EE0DM08D600D600D600D600D600D60" ++
    "0D600D600EV5D0D5101590340D00B4004500F41570j210604001D2590157005200D8E500D401D403DYL01E10" ++
    "1D200DYP00D304DXA00DYT0GDV0XFDF0lVDcjV0XVDrqC0Y2DXD0040DeC0041DF89D10J90A090A090A090A090" ++
    "A090A090A090A090A090A090A090A090A090A090A090A090A090A090A090A090A090A090A0D0E300E900D090" ++
    "A090A090A090A090A090A090A090A090A090A090A090A090A090A2E1DYFE1004002400UD80190A090A090A09" ++
    "0A090A090A090A290A090A090A090A090A090A090A090A090A090A090A090A090A090A090A090A090A090A09" ++
    "0A090A090A090A090A090A090A090A090A090A090A090A090A990A090A091A090A090A090A090A0D00190A09" ++
    "0A0D090A090A290A090A090A090A090A090A090A090A090A090A094A094A090A090A090A090A090A090A090A" ++
    "093A090A091A00190A000A000A090A090A090A0900KA290A0D0A2D6E0D2E0D3E0DME403E00IDXJ014107E1DX" ++
    "HEH07418905EHD502D000D1E089DRE70040DMEC0BDS02E3DXEED064104D08905D4E0D989D400DX8ED08D2E0D" ++
    "7E101890242DM02D0E2DXHE0D0E2D1E1D4E1D0E0D00ND201DAE441D2E109D501D501D508D600D600AXA00AD0" ++
    "5AYFDX2E740E1018905Dgz30BDM03DXG0ee3DhD01DZ90X5A60BA404D0E0D900DC00D400D000D100D100DZB0X" ++
    "0DhA510FDXV01DXL0X7DB03EF614061415106EF0061015F0151066170006141605503600BD400Da601C00040" ++
    "05510161700089610240009P50005002AP500050005140516000DXNE1DU02D501D501D501D20RC203DB00DP0" ++
    "0DI00D100DE01DD0X1DZQ0Y4DXK0a7E00a1DS02DXG0EE00UDV0CDT04DX5E404DT01DX303D700D40X99X7AX7D" ++
    "YD0189059X303AX303DX707DXJ0B9A009E0096009100AA00AE00A600A102DXJ0BDfM08DL09D70NA0D1A200AX" ++
    "900A80Y4D501D000DXB00D102D001DM09DM08DU0Y0DI00D109DL09DP0Y5DXN05D10XVD0E200E104E3D300D20" ++
    "0DS01E203E00L4107DS02DS0X2D700DRE10ODXL09DL09DI0CDH0ZDDY80XM9XI0CAXI0CDX3E307890589D59L0" ++
    "2E400D0AL0dPDX900E102D10FD20XME3DS09D007DLEA03440LDHE3430X5DK0QDM08E2DXKEE410S89E0D1E1D0" ++
    "08E3DXCEA018043E0098001DO068905E2DX3ED00890042D0E1D007DX2E001D008E2DXFEDD34101E340E189D0" ++
    "00D000410VDH00DOEB41004100E0D1E00XTD600D000D300DE00D94005DXEEB048905E300D701D101DL00D600" ++
    "D100D400E1D0E601E101E201D005E004D4E101E602E40AD900D001D000DX500D0E800E001E000E300E4D0E0D" ++
    "0410AE10SDXKEHD341028903E0D20TDXFEJD100D007890b5DXEE601E80041044ED3E10X1DXFEG4100D00A890" ++
    "X5DXAECD00689058J0RDQ01EE0389014200D60bODXBEE0Z49VAV890KD701D001D700D100DNE500E101E3D0E0" ++
    "D0E140004008890Y5D701DX6E601E6D000D0E00QD0E9DX7E6D0E3024102E007D0EADXDEF0041D00HDY80c6DX" ++
    "00E8905D800DX4E700E7D0410C890NDT01EL00ED0Y8D600D100DX5E502E000E100E6D0E0078905D500D100DV" ++
    "E400E100E4D006890fLDIE34106E1D0E0DC00DX1E602E4410A89E00YKD00YEDyP0Z5DZE0GDc30YoBDZ00EDXX" ++
    "FCFE0D5EE09DZyQ04Do60crODTEH890Xs5DnO06DU00890341DYE008905DT01E44009DXFE64106D3400A8908D" ++
    "K04DI0jFDXC0041890c59VAV0N400Z6DYA03E0D0EXM06E3DC0XVD100D0E00AE10DDb_N07DXcL0X8D90et6D30" ++
    "0D600D100Df20ED00SD201D00DD307DiB0Ye3DZA04DC02D806D902E140C30aYB890m5EXD01EM0mTE402E5C7E" ++
    "701E60TE30aJE20jQ9PAP9PA600AH9PAP9000910190019101930097A300A000A600AA9PAP910093019700960" ++
    "0AP91009300940090029600AP9PAP9PAP9PAP9PAP9PAP9PAR019O00AO00A59O00AO00A59O00AO00A59O00AO0" ++
    "0A59O00AO00A590A0018XH0lVEXM03EXH07E00DE002400HE400EE0XYFA9D0AJ05A50cKE600EG01E600E100E4" ++
    "04AXT0X0E00ZFDXC02E6D6018903D00g0DTE00GDXBE3890kLDRE3890cLDTE1D0890l4D600D300D100DE00Dc4" ++
    "0AE60X89X1AX1E6D003890Xb5D300DQ00D100D001D000D900D300D000D005D003D000D000D000D200D100D00" ++
    "1D000D000D000D000D000D100D001D300D600D300D300D000D900DG04D200D400DG0pJ9P059P059P0XdB520X" ++
    "hM890XW5DXfsV0VDaXP05DcT01Dbq10DDdfG0EDpD0Yj1DmT0Xl1DawA04DaYV0rtYGC00TEYV0ZVEdF0b_mF"

end ScriptMatrix.Unicode.Break
