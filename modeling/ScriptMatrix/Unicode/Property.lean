import ScriptMatrix.Unicode.Table

/-!
# `ScriptMatrix.Unicode.Property`: properties that characters have or not

Each property has its names and its ranges of characters: how many
characters the range is behind the one before, and its length less one.
-/

set_option autoImplicit false

namespace ScriptMatrix.Unicode.Property

/-- The properties by their names, with their ranges. -/
def table : List (List String × String) := [
  (["ahex", "asciihexdigit"],
    "XG975Q5"),
  (["alpha", "alphabetic"],
    "Y1P6PXF0A0405M1U1k94BE47010YM0TH1123106012101J1YI1aA8b51X5206X8X7D101111108Q43TA5XN16EZ5" ++
    "174742A220GXFDZ4OX091405N2IJO7A5N15808X9AB366YB1F124EDI17212L16103337212110804114C1A0421" ++
    "5412L16111111444121407310H5B218121L16111438121130F3L34217212L161114372121914114D0G115321" ++
    "331101131323B4432123060X8C121M1F37121281122023S317121M1914371212816113D2CC121X8271212105" ++
    "374M5121H3N181026851017I1DXP5660XJ110141N101I12241060E3X00XV71X34I4F1X3Y3XM1024GXVA32X51" ++
    "0502XA1gC132610132X8132X0132610132E1XO132Y2X5FGYL253pB2G1P5YA3A7JBKCJCC1211CXJ2IE040Y3YO" ++
    "7XA5Y5AU1B48NT24BXB4PXMR4XU2JXI0N1B2XHXJ1E17XJX923AXB1AEXMM2AX32A5XA22X931511305bVJX1BeL" ++
    "252X525271010101U2XK1610321633254C5216ZK0D0GCZ5040291034601010131A235440HX8vDXJXuMd46331" ++
    "CX510502XN70GM96161616161616161VXF0kL2P874244YL621YP135XA1YTHVXGFm0cjVY0rqCY3XD2eC3FA1KX" ++
    "E573ZGX782Z62Y2211017LJ1X0OXJCY310XC53012AX05X2DS3XI1BF0GFA41XM9DIM3Y41010O22F23B5252596" ++
    "161XA1D6ZQLgz3CM4XGee4hD2Z9X66C45B1C141011111ZBX1hAIXV2XLX8BZK41a6X4P6PBYO35252522X3B1P1" ++
    "I111E2DX2ZQY5XKeBS3XGXFVDT5XA5T2X34714XAaTIX34X34X78XJCA1E16111A1E16113XJCfM9LA7O51X918Y" ++
    "55201XB11302MAM9UY1I11ALAPY6XN61Y031157121SXAS3SX371RRXLALAIDHZEY8XNXIDXIDX7X2R305MdQX91" ++
    "131G2XN03SA08LXAHXEKRM9Y5XB4AXO90DONXIH38X2309XV1391A010X3H1X12063XU610131E197XON317212L" ++
    "161114372121306056S910201X519102013113010XCY11213K2UY12110bOXL26P5X2XU1030XRXL20Y7Q2DL6b" ++
    "PXOZ7XVV72027111T112123YT72XD251011RXI29HY750IY8c7X0V81XC1610XHT2L1DY96111XB3011121021O5" ++
    "111X4111310g7M9G1X832ZF0YFyPZ6ZEHc3YoCZ0FXXFH5PZyQ5o6crPXEXsHnO7UHYEHTIXFG3VK5IjGXCcJXVa" ++
    "0YA4XO7GY0110C1Eb_N8XcLX99et7316111f2F0T220E38iBYe4ZA5C387940bx1YK1Y6112021231B10161Y013" ++
    "27161R131410361gJ2O1O1U1O1U1O1U1O1U1O17XvKU65cL61G2611145XTX10ZGXCA6G0g1TIXBl4Rd4T20lF61" ++
    "3111E1c4XRY33030XbK31Q1110201913101060401010121110201010101011102316131310191G52141GpKP6" ++
    "P6PZpMXfsVX0aXP6cT2bq1EdfGFpDYj2mTXl2awA5aYV"),
  (["bidic", "bidicontrol"],
    "XmS0clH1Q4XN3"),
  (["bidim", "bidimirrored"],
    "X81I010S010T010XD0F0ZpU3XwT1YiS1A1XM1E1bH0c033530313313101048501H539110171V2350912I51942" ++
    "14N2F83K171XXTDYA023111253523DiJL251D807530441124401221A521CI13201020135162O1B14311214XA" ++
    "271X750103452403410e00m333111E129XB7jB927XpnT551b21I010S010T0101111XrxN0XP0XP0XP0XP0"),
  (["ci", "caseignorable"],
    "X7060B0X3010Y7040104021lNbV41409110dR6cF050XHXC10111110XC0B5AA10X30AKG0Z571913X1010UQYRA" ++
    "XQA4020ONXB2XC07158X9XPXN010474036A1D0F0XQ04380K1Q021XP041412230U130B1XP0441140K1M510XQ0" ++
    "20138071B1U0XT0C0XI030XN012521371B1T0XQ0206051K1S1XP14380K1T0Y807210YQ026B8Z20289016Y91R" ++
    "01010XND14115A1X390Z63151121P142G3D02160F0YU0p02zI2T1U1U1Y0116802A3050XD4XJ0Y11X20ZM2419" ++
    "062cR120XQ0161010276920X708UXH3XG0141050X88C1X032112XO0113012XQ721Y05YI21C16406031XIXUD0" ++
    "X2Z4jT012B2D2D2D1C481A02024XH41910D0GCXJX0YyB1ZH2ZT0F0Z0VXF0kL0X433450YT5YT2xuM0Xd25eE0Z" ++
    "231910S3YG1EX1YE0N2Z7231803040P150aN1QHD0X67PAXE2XG02321H0L1Y252121C080X30B0XJ012215110R" ++
    "0E15110Z4492ZP02040pvG0aJGnTF30CFX2020b907060B0X3010XF0XD1Y30L2m10d20aL4XW551X918o621153" ++
    "X8240b51nT3X60Q410fR1YF3Y6AXH3ZR0XMEX9021A2XH3212040A0XI2X4417XU0C1XK8A320YV220116020aT0" ++
    "37L1XP130X5634Y65D01010E1YL72210N0YK5104111dE36111R1YL72011ZA0102510Z50102314e3811e01104" ++
    "0aG32140X09X8523809522XEC11iM61510YIL261111ZQ530111610Y813010gR1B1XK45010N0bcLG6Ehc8B32Y" ++
    "k04XR693lS2X81l20XVGY0111mWB31611ZaU113aoSXD2Mn029F26U3aK2XzRXM4XH80E0M41EXgG61G2611145X" ++
    "TX10b0DhG0XT3lR4dU1t06ZD7YrF4uZW10UYVa0dF"),
  (["cased"],
    "Y1P6PXF0A0405M1U1c2134cF1X371U4Z00XA32123106012101J1YI1aA8b51X59X8YuNX510502XA13r0YL25Ya" ++
    "2A5XA22Y0bVY0eL252X525271010101U2XK1610321633254C5216ZK0D0GCZ504029103460101013154023544" ++
    "0HV31vHXJXuMd46331CX51050.eIXDITa4Z5331XT211017L412vLXA1D6YFpw06C4XW9P6PXb5YFZ0X34X3ZKA1" ++
    "E16111A1E1611k30221X918Xc5XIDXIYTLALYuQXVrh0XVvi0YK1Y6112021231B10161Y01327161R131410361" ++
    "gJ2O1O1U1O1U1O1U1O1U1O17XvK91J65e5XTYaIY3X_CP6P6P"),
  (["cwcf", "changeswhencasefolded"],
    "Y1PYQ0AM17X00101010101010101010101010101010101010101010101010101010201010101010101011101" ++
    "0101010101010101010101010101010101010101011101010111011122311123111101011102011121011307" ++
    "1111110101010101010102010101010101010102110121010101010101010101010101010101010101010101" ++
    "0101010101010107111201310101010dM0XA0103080601210111G18M0C231101010101010101010101010112" ++
    "110112XIXG010101010101010101010101010101010901010101010101010101010101010101010101010101" ++
    "0101010101110101010101020101010101010101010101010101010101010101010101010101010101010101" ++
    "01010101010101010101010101010102X5XG0YuOX51050vA5Ya296XA22g00101010101010101010101010101" ++
    "0101010101010101010101010101010101010101010101010101010101010101010101010101010101010101" ++
    "0101010101010101010101010101010105120101010101010101010101010101010101010101010101010101" ++
    "0101010101010101010101010101010101010101010109785A78785B010101087GXF22255225B3C45225f903" ++
    "160XDFJ0vIPXvGXFXG0122010101310208210101010101010101010101010101010101010101010101010101" ++
    "010101010101010101010101010101010101010101010801040.gD0101010101010101010101010101010101" ++
    "01010101010J010101010101010101010101010a701010101010103010101010101010101010101010101010" ++
    "1010101010101010101010101010A01011101010104010201030101010101010101010141410101010101010" ++
    "1310113050101010O0xQYFpw06C4XW9PXc5X7a8X3aSA1E1611XtAXIaTLYvQVri0V.r0X1"),
  (["cwcm", "changeswhencasemapped"],
    "Y1P6PXQ0AM1U1XV1YJ1R2D21104YS1H6Q1110113113142011207020113550A1b60XA32132106012101J1XE3X" ++
    "0141a48b51X5AX6YuOX510502XA22r0YL25Ya2A5XA22bP030G0ZHaR201ZL252X525271010101U2XK16103216" ++
    "33254C5216f903160R0HV31vHXJXuMZG11117Z57331CX51050.eIXDIRa6D2XT9E32241O1T2146O1wS0SYFpw0" ++
    "6C4XW9P6PXb5YFZ0X34X3ZKA1E16111A1E1611Xs3XIDXIYTLALYuQXVrh0XV.q0Y3"),
  (["cwl", "changeswhenlowercased"],
    "Y1PZ5M16X1010101010101010101010101010101010101010101010101010101020101010101010102010101" ++
    "0101010101010101010101010101010101010101110103110111223111231111010111020111210113071111" ++
    "1101010101010101020101010101010101021101210101010101010101010101010101010101010101010101" ++
    "010101010107111201310101010f10103080601210111G18X308010101010101010101010105020112XIXG01" ++
    "0101010101010101010101010101010901010101010101010101010101010101010101010101010101010111" ++
    "0101010101020101010101010101010101010101010101010101010101010101010101010101010101010101" ++
    "01010101010101010102X5Yw9X51050sIYLYaJ06XA22g0010101010101010101010101010101010101010101" ++
    "0101010101010101010101010101010101010101010101010101010101010101010101010101010101010101" ++
    "0101010101010101010901010101010101010101010101010101010101010101010101010101010101010101" ++
    "010101010101010101010101010109785A78785B010101087O7878784B4B3C4B4f903160XDFJ0vIPXvGXFXG0" ++
    "1220101013102082101010101010101010101010101010101010101010101010101010101010101010101010" ++
    "10101010101010101010101010801040.gD010101010101010101010101010101010101010101010J0101010" ++
    "10101010101010101010a7010101010101030101010101010101010101010101010101010101010101010101" ++
    "010101010A010111010101040102010301010101010101010101414101010101010101310113050101010O0r" ++
    "vBPXc5X7a8X3aSA1E1611XtAXIaTLYvQVri0V.r0X1"),
  (["cwt", "changeswhentitlecased"],
    "Z1PXQ0X9N1710101010101010101010101010101010101010101010101010101010201010101010101110101" ++
    "0101010101010101010101010101010101010101020101220102030502032202010102040203010203010401" ++
    "1111010101010101010111010101010101010121010301010101010101010101010101010101010101030101" ++
    "010101010101080211040101010151110113113142011207020113550A1b60XB0103032I0RX2113210101010" ++
    "1010101010101014102020XKXF10101010101010101010101010101010109010101010101010101010101010" ++
    "1010101010101010101010101020101010101011101010101010101010101010101010101010101010101010" ++
    "101010101010101010101010101010101010101010101010XHX6ZpG5Ya2810dE030G0ZI01010101010101010" ++
    "1010101010101010101010101010101010101010101010101010101010101010101010101010101010101010" ++
    "1010101010101010101010101010101010101010101650101010101010101010101010101010101010101010" ++
    "101010101010101010101010101010101010101010101010101885A78785A7878D2787878411603211832187" ++
    "A211gM0X1F40wBPXw6XF10311010106020A01010101010101010101010101010101010101010101010101010" ++
    "1010101010101010101010101010101010101010101010801040CX51050.eJ01010101010101010101010101" ++
    "0101010101010101010J010101010101010101010101010a7010101010101030101010101010101010101010" ++
    "101010101010101010101010101010101010A010201010101040401120101010101010101010B01010101010" ++
    "101040102030501010Q0wS0SYFpw06C4XX9PXcDX7a8X3aRA1E1611Xu3XIZTLYvQVri0V.r2X1"),
  (["cwu", "changeswhenuppercased"],
    "Z1PXQ0X9N1710101010101010101010101010101010101010101010101010101010201010101010101110101" ++
    "0101010101010101010101010101010101010101020101220102030502032202010102040203010203010511" ++
    "1111010101010101011101010101010101011111030101010101010101010101010101010101010103010101" ++
    "0101010101080211040101010151110113113142011207020113550A1b60XB0103032I0RX211321010101010" ++
    "10101010101014102020XKXF1010101010101010101010101010101010901010101010101010101010101010" ++
    "1010101010101010101010102010101010101110101010101010101010101010101010101010101010101010" ++
    "1010101010101010101010101010101010101010101010XHX6Yw8XA22tO5Ya2810dE030G0ZI0101010101010" ++
    "1010101010101010101010101010101010101010101010101010101010101010101010101010101010101010" ++
    "1010101010101010101010101010101010101010101010165010101010101010101010101010101010101010" ++
    "1010101010101010101010101010101010101010101010101010101885A78785A7878D2XK114010321140332" ++
    "187A21140gH0X1F40wBPXw6XF10311010106020A010101010101010101010101010101010101010101010101" ++
    "010101010101010101010101010101010101010101010101010801040CX51050.eJ010101010101010101010" ++
    "101010101010101010101010J010101010101010101010101010a70101010101010301010101010101010101" ++
    "01010101010101010101010101010101010101010A010201010101040401120101010101010101010B010101" ++
    "01010101040102030501010Q0wS0SYFpw06C4XX9PXcDX7a8X3aRA1E1611Xu3XIZTLYvQVri0V.r2X1"),
  (["dash"],
    "XD0XgS0XJ0Zo10XW50YW95XT0X70F0i60ZW4020V140S0jU0J0ZF0XpiG1X50A0b90Zp00fU0"),
  (["di", "defaultignorablecodepoint"],
    "bD0r10sC0Yw21XoJ1YL4X_R4Q4XHFadK0XpaRFdF0b00YF8Xlb73bcF7uhq5Z_V"),
  (["dep", "deprecated"],
    "g90Xf90Ye3010YX91Yc55rP1xtcM0"),
  (["dia", "diacritic"],
    "YU010Y70604021lNaU1755H14091dT4cH0XNG1Q101110a6741a614132Y3QYRAXQAX21ZU7X99GRXT0G033S0YA" ++
    "0G0ZE0G0ZE0G0XF2XS0G070ZN0ZE0G0ZE0G0ZD1G0ZS0ZF0C510ZB0D4YB1R0101041Y2211XU0ZG011X8144P61" ++
    "0A1s12zK1U0aKA90gR2f40K720XGE2AZ80F0X68XM1XQ0B1Y21Y05YIO406022XIXUYPBX5AjT012B2D2D2D1ZdG" ++
    "2fT0lQ5Z93YV0zhI0C110S1YI1EX1Z62ZD1C0X50aN0RHXP3X40YV0C0X40aL2Y13XJ0Z4492a01pvG0u1FeE010" ++
    "XF0XD1Y30tS0XaV51X918pT240b51nR5X60Q4iF2Y6AXH3c00X90Y81ZO1XU0YC092Z81bI1YG1G0O634YP211D1" ++
    "YV030ZR1dR1ZU0ZM1ZJ0eD1e2140aS0YJ0I0YH0j50e2011YH0j91N0bdCEhcP0Yk04XR6nK1n2GYG1l_U31611d" ++
    "u1XD2Mn02358726U3Zq2XTc26hN0XT3tU1t06ZD212"),
  (["emoji"],
    "X306059ZF040dyD0C0cO0M0YQ5F1hF1C0b60PA42c70d71A090XQ314902021204020112030318250105BB1201" ++
    "110I021I5101131502141B15120511011K155132040202510201010603060A1F02040104210B1XG290E0E0hK" ++
    "1kF2J1XJ040XcQ0C0oP010ZlhA0cA0b01C1E029YBP11N0K028L1bEX12ZF21122YI221e61XUB51N7127C02320" ++
    "41D120819052C28220104060306YLXGY557224930113029d3B40eRXE191bOZGC395XN7E2A68"),
  (["ecomp", "emojicomponent"],
    "X306059d.J0cL0XtfB0Xy.MPlR4XjG3uXpCYV"),
  (["emod", "emojimodifier"],
    "Zy_R4"),
  (["ebase", "emojimodifierbase"],
    "fmT0cR0G3ZpZN0XS22022ZL12ALI3042127010O0c9140L041bE234YJ0G290B0nV02087609922XO0XT11110H2" ++
    "1Cd52XA8"),
  (["epres", "emojipresentation"],
    "euQ1cD33020m91L1XIBXB0J0D081H1518050L0711040207041S0X30104210XT2O0E0wR1XJ040ZnbE0cA0bU02" ++
    "9YBP10O0K02412L1bEX0C81Y51LCXA44CG303Y6101bQ2XUD31NI0Q1D0YMYKXGY560322243B178d3B40eRXE19" ++
    "1bOZGC395XN7E2A68"),
  (["extpict", "extendedpictographic"],
    "b9040dyD0C0cO0M0YQ5F1hF1C0YV0Y60PA42c70d71A090XQ3151B1ZHAZL2A1010603060A1F02040104210B4X" ++
    "D290E0E0hK1kF2J1XJ040XcQ0C0oP010Zlh6dVD2V0XS5C1E029IXOREA0K028139jH5fT8e9XGZVZKBYLXAC3XO" ++
    "7A5X87UYHCXE191jOe0_T"),
  (["ext", "extender"],
    "bN0mO1xE0jP0pM0a90YP0tG0ZV0Yg30XO0p30iE0Y40ay90XB4Z71YT2xuM0XlM0.20M0a90ZC0L1rZR0YWG1XkB" ++
    "0R040Xc70f50ZK1lI2XcF0qb91XaS110ygO1XbH0wK2"),
  (["grbase", "graphemebase"],
    "X0YUX1C1oHZG72546101J1cV7b51X52XH22XE01020209Q45H9B01XDLF1Z48061204V201TTYOB0EXA963N4090" ++
    "307E1O501A5UHX9XPXM10138312792S1117212L1610333011612110D1124N5015412L1611111142O31079221" ++
    "0C018121L16111433801130F14B708117212L16111430206121F1124HB015321331101131323B5011321230L" ++
    "K6217121M1F3033J2202149791A121M1914312011O1114912EA121X8201152121142194P211H3N1810269166" ++
    "7922CXF11B78CX5110141N1019119024109923X0N2Q10101D1X3I05024XH7151CX5XC4060212O233F4C11251" ++
    "E1X710502hO132610132X8132X0132610132E1XO132Y25S3P6YL252qS3YO7HDI319HEC12FXJ207711B839696" ++
    "A596YO742X1105Y5AU43224115703X924BXB4P6A3XO213XN10901185D9696DYMXFA3371S9B2V416XN102210D" ++
    "XF815E3XT5XA2AB0D0731512205bVY0eL252X525271010101U2XK1E1D251I22181A5N7XGG12Q1C3X0XVaB4qP" ++
    "MALXuJ2V1gN315XC10502XN71FM9616161616161616X1YTX2P1YOCcLQXP6F1YL4Z45XA1YT1YL9XF1ypC3XM9g" ++
    "RKXE40AV2YF258cD211017LF12131O24496XN8Y3ABOC1X58OB0CT6XF1141211C1A461O1X86121B21710292V1" ++
    "XI1031242010OG27B5252596161XR4ZK1113396gz3CM4XGee4hD2Z9X66C4501N141011111ZSGjS2XL70X0FG9" ++
    "MX21I13441a64aS2U352525223616D12B1P1I111E2DX2ZQ524XC3YN1C30XFXCa3S3XGGQ4X39T5X5AT1X44DXA" ++
    "aT296X34X34X78XJBB1E16111A1E16113XJCfM9LA7O51X918Y55201XB11302M1Y788XGI115X03Q50Y0XN4J2X" ++
    "EF3121SA8787XVX0X46B9XL3S2Q5P73C6YGY8XNXIDXI7X9C96X58N81cGU1X93021G2XRX78LB8MH43X6RKM901" ++
    "XLF64T1120CXG412113EO799X3509H8X212BXJ9017411F1JBH1R314511XV610131E1A6XE12D98117212L1611" ++
    "14301013212130C6S910201X51011F011301211X7XN81301K1012UXF11601110202389b6XE1163202QX4XI81" ++
    "1023B96CJXA101181696JSQ3011409MbPXE9020Z4YIC72027111N1411631299Y672X98313R0AX7614790613X" ++
    "DD028DY879bMX1E9681X5E015AS3VP07020YB6111X5L09965111X441101079fMI239E1X3813MYM0FXHDyQZ6Z" ++
    "E14Bc3YoCZ2DXXFH5PZyQ5o6crPTC239Xs6nO7U194YG196T70AXF7EA9161K5IjGXPc6YQZ5YA5XNBCY03Sb_N8" ++
    "XcLX99et7316111f2F0T220E38iBYe4ZA5C38792020Zx0dP6jJaSZJXSdLAX62XR52M17T4XSLY130ZQJCJCYM9" ++
    "Oa7YK1Y6112021231B10161Y01327161R131410361gJ2f32nHXN3XI71D16XZKU65e5XTaIXCA62941g0TIXB49" ++
    "50kGR49cMT2A40l0613111E1c428XGY3704941uHY3YCXSc231Q1110201913101060401010121110201010101" ++
    "011102316131310191G52141GXK1eEXB4Z3CE2E1E1X4AbDXOSDXB4871E5aQ.N4G3C3ZM4YU6B40FB4XN896X78" ++
    "T2B41XUgJCD2C395XN7E2A687aI1Z5XW6XfsVX0aXP6cT2bq1EdfGFpDYj2mTXl2awA5aYV"),
  (["grext", "graphemeextend"],
    "u0ZFeJ6e7XC10111110Y8AXGKG0Z56252113X30UQYRAXQ890O3181214XB2XR8XAN1VXN010474036A1T0XQ010" ++
    "238090A1Q021XP041412230U130B1XP0441140K1M510XQ011138072A1U0XR010C090X8030XN012521371B1T0" ++
    "XQ02110321371B1S1XP110238090A1T0Y8040221080YH026C7Z2028B6Y91R01010XND14115A1X390Z6315112" ++
    "1P142G3D02160F0rV2zI3S2T1U1Y0116802A90XD210ZL1X20ZM2419062cR120XQ0161010276920XGUXH3XG94" ++
    "2X68C1X0325XO0113014XO721aO21C16406031c6XVmC0c3X0Y_U2aD0Z0VnA5Z91zkK319X01YG1eG03040P150" ++
    "aN1QHD0X67PA10XC2XG0232120X40Y352121C080XF0XJ012215110XA180dE02040pvG0t1FGFhE1oT0d20aL4X" ++
    "q621153X8240b51nT3Y14fT1YF3Y6AXH3ZR0XMEX9021A2XH32170XT2X4417XU0C1XK8108320YV2236020aT03" ++
    "7L1XP11010C090E634Y30251020124210E1YL72210N0YH02510201111dB0236111R1YL72011ZA01027Z50102" ++
    "314e3811dL0A340aG32140X09X8523809522XEC11iM61510YIL261111ZQ530111610Y813010gR1B1XK452N0b" ++
    "d506Ehc8B32Yk04XR6XWO0XV3YH0B1pbB1ap1XD2MmU4358726U3aK2XzRXM4XH80E0M41EXgG61G261114Z40b0" ++
    "6hN0XT3lS3dU1t06ZD6ubsLYVa0dF"),
  (["grlink", "graphemelink"],
    "YgD0ZV0ZV0ZV0ZV0ZV0ZV0ZV0ZD1G0ZS0ZF0ZV0c90bK1XsP1U0aT0qD0d30Z51Y61aiB0.q60X50aN0aE0ZC0fL" ++
    "0dM0toH0Xm60X90E0XP0ZP1aB0ZK0bK0Z20a02ZH0ZV0dS0ZV0ZM0ZK0eD0e31b10YJ0I0YH0j50e41YH0j91mlC" ++
    "0"),
  (["hex", "hexdigit"],
    "XG975Q5X_r9975Q5"),
  (["hyphen"],
    "XD0ZV0XcS0apR0YW91Zm50t30Xph70b90YN0"),
  (["idsb", "idsbinaryoperator"],
    "h_G129lH0"),
  (["idst", "idstrinaryoperator"],
    "h_I1"),
  (["idsu", "idsunaryoperator"],
    "h_U1"),
  (["idcompatmathcontinue"],
    "bI150dzM03A1EhJ040M0Zjb20P0V0P0V0P0V0P0V0P0"),
  (["idcompatmathstart"],
    "em2040M0Zjb20P0V0P0V0P0V0P0V0P0"),
  (["idc", "idcontinue"],
    "XG97P401PXF0A010205M1U1k94BE47010HZK11231064101J1YI1aA142b51X5206X88XC101111108Q43TA5Y94" ++
    "Z517291I20GXQ2Z4EXL40202XDIR4A5N158YA1a0291I17212L1610332821238041142BA0102215412L161111" ++
    "11201441223073107FB218121L16111429121220F329961217212L1611142821227241142910G11532133110" ++
    "1131323B4432132060E9GC121M1F2812137112202329G317121M19142812137161132912CC121XI121453742" ++
    "9A5121H3N181026304510176921DXP5E19X7110141N101M2410161923X00N169B01010491X34J1H1X390XPY9" ++
    "6YD2X510502XA1gC132610132X8132X0132610132E1XO132Y22298EFGYL253pB2G1P5YA3A7L9LBJCC1211CYJ" ++
    "304129X121A6YO7XA5Y5AU1B4BAX724BXB4P6AX5R4XU1S2A69D08D1FXHYC39H8CZJCXN893XG2A5XA22G21X65" ++
    "mL252X525271010101U2XK1610321633254C5216F1XH1J0S0D0GCXJC403BH0402910256010101F235440HX8Y" ++
    "pNd468CX510502XN70FN96161616161616161Vm52PE14244YL261YU5XA1YTHVXGFm0cjVY0rqCY3XD2eC3RKXF" ++
    "491ZIX582Z62Y2211017LXL40JXJCY5A96N301XG2X3CS3Y0EA6U1XM9D296M3Y8O22F24A5252596161XA1D6ZQ" ++
    "11296gz3CM4XGee4hD2Z9X66C45B1C141011111ZBX1hAIXV2XLX8B4FGF31O2X041a6J97P401PAYP35252522X" ++
    "3B1P1I111E2DX2ZQY5XKa80a2S3XGF0VVDT5XA5T2X34714XAaT296X34X34X78XJCA1E16111A1E16113XJCfM9" ++
    "LA7O51X918Y55201XB11302MAM9UY1I11ALAPY6XN61Y031157121S2240X0S3SX371TPXLALAIDHZEY8XNXIDXI" ++
    "DX7896X5341MdQX91131G2XNX0A08X0VLXAKRM9Y6VF9XR70DO796XK19438X3209Y4431C10X3H1X463XU61013" ++
    "1E197XQ596317212L1611141921222060562634B910201X51910201317D1TYA5943UY51089b6XL28N5X2Y030" ++
    "B9X6XO796JSQ2E4966bPXQZ5Y9L72027111T1128C9Y672XD2711RXU808Y930IY8c7X0F9681XC18F9OT2L1DY9" ++
    "6111XB3011188965111X4111579fMM9G1X834DAYL0YFyPZ6ZEHc3YoCZ0FXXFGLAZyQ5o6crPXPXs6nO7U196YE" ++
    "196T24BXM93C99K5IjGXC39c6XVa0YA4XO7GY0111B1Eb_N8XcLX99et7316111f2F0T220E38iBYe4ZA5C38793" ++
    "1aYH9m6XD2MmU4358726U3aK2jRYK1Y6112021231B10161Y01327161R131410361gJ2O1O1U1O1U1O1U1O1U1O" ++
    "172XHm0XM4XH80E0M41EXYGU65cL61G2611145XTX10ZGXC3D2940g1UHXPkMX9cMXAl5613111E1c4B6X9YB49X" ++
    "b631Q1110201913101060401010121110201010101011102316131310191G52141GZfK9XW6XfsVX0aXP6cT2b" ++
    "q1EdfGFpDYj2mTXl2awA5aYVrtgGdF"),
  (["ids", "idstart"],
    "Y1P6PXF0A0405M1U1k94BE47010a141123106012101J1YI1aA8b51X5206X8Y7Q43XDXAX311Z210F171A220G0" ++
    "1TTYOB0OX091405L409030NO7A5N15HX9XQXL30I079FF47212L16103330G0D112E1A085412L16111111V310J" ++
    "2G8121L16111430I0F1N0B7212L16111430U112F0H015321331101131323BM0XK7121M1F30Q22021U047121M" ++
    "191430V111F1H8121X820G05282O55H3N181026XQXF11C6XQ110141N101911902410L3X00XV71X3R4ZJXAK0G" ++
    "5433031724CC0HX510502XA1gC132610132X8132X0132610132E1XO132Y2X5FGYL253pB2G1P5YA3A7HDIEHEC" ++
    "12FXJX3040Y3YO7X8105Y5AUXHT24BXB4PXMM9XKYI0YTXEH7XMTD1AXBQX3X92AX32A5XA22X931511305bVY0e" ++
    "L252X525271010101U2XK1610321633254C5216ZK0D0GCZ50402910256010101F235440HX8YpNd46331CX510" ++
    "502XN70GM9616161616161616n62P874244YL441YP135XA1YTHVXGFm0cjVY0rqCY3XD2eC3FA1KXEGU2YFX782" ++
    "Z62Y2211017LF12131MTXJEXHXU53011BRAMPS7XES0G419A41X8N217KM303XH1031242010O22A72C52525961" ++
    "61XA1D6ZITgz3CM4XGee4hD2Z9X66C450191C141011111ZBX1hAIXV2XLX8BZK41a6X4P6PBYO35252522X3B1P" ++
    "1I111E2DX2ZQY5XKeBS3XGXFVDT5X5AT2X34714XAaTIX34X34X78XJCA1E16111A1E16113XJCfM9LA7O51X918" ++
    "Y55201XB11302MAM9UY1I11ALAPY6XN61Y00F3121SXAS3SX371RRXLALAIDHZEY8XNXIDXIDX3X6R9MdQX961G2" ++
    "XRSA08LXAHXEKRMCXKXP120DXCX0OQX3T0208X230CXFE3L010X3H1OJ1XV610131E197XEX67212L16111430I0" ++
    "C4U910201X510P010XCXKI3K2UXFK110bOXEX93X4XFK0XRXAD0Y7QX56bPXBZKXVV72027111NF010YU72X6G01" ++
    "0S0AX770L0BXDJ0IY8c7X0V81X4H0XHTZG6111X5L0P5111VE0g7IF01C1X1ZS0YFyPZ6ZEHc3YoCZ0FXXFH5PZy" ++
    "Q5o6crPTXt2nO7UHYEHTIXFG3VK5IjGXCcJXVa0YA50Y2CY0110Sb_N8XcLX99et7316111f2F0T220E38iBYe4Z" ++
    "A5C3879bx6YK1Y6112021231B10161Y01327161R131410361gJ2O1O1U1O1U1O1U1O1U1O17XvKU65e5XTaIXCA" ++
    "6G0g1TIXBl4Rd4T20lF613111E1c4XRY370XbK31Q11102019131010604010101211102010101010111023161" ++
    "31310191G52141Gag4XfsVX0aXP6cT2bq1EdfGFpDYj2mTXl2awA5aYV"),
  (["ideo", "ideographic"],
    "iW61P8E2.5cjVY0qlVse0hD2Z9zeA0Rb_N8XcLX99fZ7iBpe4XfsVX0aXP6cT2bq1EdfGFpDYj2mTXl2awA5aYV"),
  (["joinc", "joincontrol"],
    "eWC1"),
  (["loe", "logicalorderexception"],
    "Zo04ZR4YtG220XadQ12011"),
  (["lower", "lowercase"],
    "Z1PXF0A040X4N171010101010101010101010101010101010101010101010101010101110101010101010111" ++
    "0101010101010101010101010101010101010101010102010122010203140203220201010201110203010212" ++
    "2602020101010101010101110101010101010101120103010101010101010101010101010101010101010101" ++
    "01010101010101016202110401010101Y41X371U4Z00XB0103023I0RX2113210101010101010101010101410" ++
    "2021XJXF10101010101010101010101010101010109010101010101010101010101010101010101010101010" ++
    "1010101020101010101011101010101010101010101010101010101010101010101010101010101010101010" ++
    "101010101010101010101010101010XGX8Yw7XA13tO5Ya2810ZLbVY101010101010101010101010101010101" ++
    "0101010101010101010101010101010101010101010101010101010101010101010101010101010101010101" ++
    "0101010101010101010101010101810101010101010101010101010101010101010101010101010101010101" ++
    "01010101010101010101010101010101010101885A78785A7878D2787878411603211832187A211ZP0D0GCZD" ++
    "03130R04040218340X1F40wBPXw6XF1031101010401117301010101010101010101010101010101010101010" ++
    "1010101010101010101010101010101010101010101010101010101011701040CX51050.eJ01010101010101" ++
    "0101010101010101010101010101010J010101010101010101010101012a5010101010101210101010101010" ++
    "1010101010101010101010101010101010101010101010191010201010101040102012101010101010101010" ++
    "10505010101010101010401020301010101010M21012vLXA1D6YFpw06C4XX9PXcDX7a8X3aRA1E1611k30221X" ++
    "918Xe5XIZTLYvQVri0VviQPQ61HQPQ310161AQPQPQPQPQPQPQPQPQRSO15QO15QO15QO15QO1510XvK91J65e5X" ++
    "TYbKX1"),
  (["math"],
    "XB0G2V0T010XD040X50V0sO220Q122mF2cmD0R2B030D0E3L4B4Y1C403144I04029102560312112153D10Y4N1" ++
    "511414V1061EeB83K1YQ0UQ10O0B6jT1C945412134E01025B751XP010T392gGXVe0lVXGK25Xp.S0vN510b20G" ++
    "2T010T010a3063Zj11XnpGYK1Y6112021231B10161Y01327161R131410361gJ2f32XHbm031Q1110201913101" ++
    "060401010121110201010101011102316131310191G52141GXK1"),
  (["mcm", "modifiercombiningmark"],
    "XoK120a306031l111230V0"),
  (["nchar", "noncharactercodepoint"],
    "X_kGVmE1X__U1X__U1X__U1X__U1X__U1X__U1X__U1X__U1X__U1X__U1X__U1X__U1X__U1X__U1X__U1X__U1"),
  (["oalpha", "otheralphabetic"],
    "w50TCo0D10111110Y8AXGC16G0Z56432140X30UFZ6AZ51381213ZA0XSB366JXM12E1152A1T2XQ62121A0A1T2" ++
    "XQ4412140U130B2XQ71211L1M242XQ6212191A1U0XR43212A0X84XP6121281B1T2XQ6121281B1F0C3XQ61212" ++
    "A0A1T2YB51017I1XT026I0Z302511G0b3I9A1X3ZEB1023N342122633DB10A3XpK1U1U1U1Y2IbS1X20ZMB48cU" ++
    "4XP92JYA1B2XH4XGEXS2U821XPAXIIiSX1Xs1XJYdMV.ZK7X21h2080N4YO1XIF10XP0X64SBXD3XGBX50Y3DC08" ++
    "1XD2XI0122150XC450dD7pvJ0YYN4Xq621153uK3Y10g11YF0e32XLDXD1B2XD890XT2X4BI1XP2XGCE1YS82060" ++
    "20aT9N3XQ62121A0A1YK810201311Z7C12ZAHdD626T1YIE10ZAAZ7De1CdN511213010aE62540S9XA413IAXED" ++
    "iN716YJL1DZQ53011121030Y241113gS39110XG632mkTGZn001XM73YT1pbC0ex161G261114Z40YbN0X_8P6P6" ++
    "P"),
  (["odi", "otherdefaultignorablecodepoint"],
    "wF0ZmF1XoJ1YbF0adU0XpnR0YF8wWW701TZ0ZVdGZmF"),
  (["ogrext", "othergraphemeextend"],
    "YjU0O0h60O0Z60O0d8010411191Z70O0ZN0F0YfL0U0XW00501051Z50Y71XWO0aX11.f30ZC0rkT1an00ZK0e80" ++
    "E090Z0090201250d00C0dH0e60pP0C0Xm30qbE1uhJ165uhrDYV"),
  (["oidc", "otheridcontinue"],
    "bN0sF0Z_18Xp80XnH1adD0Xpp90"),
  (["oids", "otheridstart"],
    "ca51YaH0L0ZxC1"),
  (["olower", "otherlowercase"],
    "bA0F0lL871U4Z00XK0Zi10ZXFXUD0X2X4rH0D0GCcJFwGPXyI1.mU1cI0a1231x2390tWM0221X918XsZLXT"),
  (["omath", "othermath"],
    "YU0xH220Q121dX00R2B0X03O1E1Y1C403144I04029103460312112153354YB4231111101421414H211016106" ++
    "1f23b8110O0H0jT1C854512134E01025O1XP010T391gM1V9iJLXV3X01XrZ301040cJ010Xrc1YK1Y611202123" ++
    "1B10161Y01327161R131410361gJ2O1O1U1O1U1O1U1O1U1O172XHbm031Q11102019131010604010101211102" ++
    "01010101011102316131310191G52141G"),
  (["oupper", "otheruppercase"],
    "eh0Fw6PZpZ0P6P6P"),
  (["patsyn", "patternsyntax"],
    "X1EA6Q310Q3X2610111011404030N0V0duON8E2I19fHsFb0pLUXZBm0ZVi124OF0XpeD1e51"),
  (["patws", "patternwhitespace"],
    "94I0Z40dy81O1"),
  (["pcm", "prependedconcatenationmark"],
    "Xm05cN0XH0i01YG0YX.Q0F0"),
  (["qmark", "quotationmark"],
    "X2040a30F0dwS7P1Zm70k93D2Xpn13bT040YQ1"),
  (["radical"],
    "hq0P1YOCcL"),
  (["ri", "regionalindicator"],
    "Zyl6P"),
  (["sterm", "sentenceterminal"],
    "X10C0G0Xg90aJ2bK0XB2dM0XT01031f51Xt41uM041u50c61aT1XD050fQ1h23b21A121T2bR1Y11z40N192ZbF2" ++
    "fI0D0M1jD0zdS0eE1d3030hU1YM1YV0aO1aJ2aG1dP0qn6021XR031b90C0G0Y10YtK1XdT4XC3bT1ZL3ZV2a116" ++
    "0G1YO111ZC0fA1ZL1hL15EZ91dP2m5010dR1YN1j41rK1YA1ov91a50Y11B0n91f80pm60dl80"),
  (["sd", "softdotted"],
    "Z91c40eP0U0XK0K0g00Z2010ce90XJ0D030a40aT0j50cM1YvI0Zfz51XI1XI1XI1XI1XI1XI1XI1XI1XI1XI1XI" ++
    "1XI1Ya60fH1Q0"),
  (["term", "terminalpunctuation"],
    "X10A010B130vU080m10XP0Y80E012bK0XBA10dB1XM517V0e51XdK1bC045fN1uL7u50ZS2Y71aT230X7321fQ1h" ++
    "23b21A112T2bR4XU1z40N192ZbF2fI0D040A01131jC1zdR1eD2d34hU1YM1YV0aN2aJ2ZV0G1dP0qn6021XP213" ++
    "b90A010B130Y1020XXQ0XG0Xa60c70fM1aO5Y45YP3zO4XC3bT6ZG3ZV2a1160G1YO4ZC0fA1ZL2C1h633EZ91dP" ++
    "2m5010dR1YN141iU2XD0q51YA1XfB4nlP1a50Y12A0n91f71pm60dl73"),
  (["uideo", "unifiedideograph"],
    "jW0cjVY0qlVsmE11011A0101122YXkMXfsVX0aXP6cT2bq1EdfGFpDaj2awA5aYV"),
  (["upper", "uppercase"],
    "Y1PZ5M16X1010101010101010101010101010101010101010101010101010101020101010101010102010101" ++
    "0101010101010101010101010101010101010101110103110111223111231111010111020111210113070202" ++
    "0201010101010101020101010101010101020201210101010101010101010101010101010101010101010101" ++
    "010101010107111201310101010f10103080601210111G18X30223010101010101010101010105020112XIXG" ++
    "0101010101010101010101010101010109010101010101010101010101010101010101010101010101010101" ++
    "1101010101010201010101010101010101010101010101010101010101010101010101010101010101010101" ++
    "0101010101010101010102X5Yw9X51050sIYLYaJ06XA22g00101010101010101010101010101010101010101" ++
    "0101010101010101010101010101010101010101010101010101010101010101010101010101010101010101" ++
    "0101010101010101010109010101010101010101010101010101010101010101010101010101010101010101" ++
    "01010101010101010101010101010109785A78785B010101087Y83C3C3C4B3e6040322220346010101323A15" ++
    "0QFJ0vIPXvGXFXG0122010101310208210101010101010101010101010101010101010101010101010101010" ++
    "101010101010101010101010101010101010101010801040.gD0101010101010101010101010101010101010" ++
    "10101010J010101010101010101010101010a701010101010103010101010101010101010101010101010101" ++
    "0101010101010101010101010A01011101010104010201030101010101010101010141410101010101010131" ++
    "0113050101010O0rvBPXc5X7a8X3aSA1E1611XtAXIaTLYvQVri0Vvj0PQPQPQ01120212317QPQ1132716R1131" ++
    "41036RPQPQPQPQPQPUOX1OX1OX1OX1OX10afLX1YWEP6P6P"),
  (["vs", "variationselector"],
    "cWB210XvlGFwWtGdF"),
  (["space", "wspace", "whitespace"],
    "94I0Z40Q0bkV0YhVAT150XF0Zz00"),
  (["xidc", "xidcontinue"],
    "XG97P401PXF0A010205M1U1k94BE47010HZK11321064101J1YI1aA142b51X5206X88XC101111108Q43TA5Y94" ++
    "Z517291I20GXQ2Z4EXL40202XDIR4A5N158YA1a0291I17212L1610332821238041142BA0102215412L161111" ++
    "11201441223073107FB218121L16111429121220F329961217212L1611142821227241142910G11532133110" ++
    "1131323B4432132060E9GC121M1F2812137112202329G317121M19142812137161132912CC121XI121453742" ++
    "9A5121H3N181026304510176921DXP5E19X7110141N101M2410161923X00N169B01010491X34J1H1X390XPY9" ++
    "6YD2X510502XA1gC132610132X8132X0132610132E1XO132Y22298EFGYL253pB2G1P5YA3A7L9LBJCC1211CYJ" ++
    "304129X121A6YO7XA5Y5AU1B4BAX724BXB4P6AX5R4XU1S2A69D08D1FXHYC39H8CZJCXN893XG2A5XA22G21X65" ++
    "mL252X525271010101U2XK1610321633254C5216F1XH1J0S0D0GCXJC403BH0402910256010101F235440HX8Y" ++
    "pNd468CX510502XN70FN96161616161616161Vm52PE14244YL21221YU5XA1YTHVXGFm0cjVY0rqCY3XD2eC3RK" ++
    "XF491ZIX582Z62Y2211017LXL40JXJCY5A96N301XG2X3CS3Y0EA6U1XM9D296M3Y8O22F24A5252596161XA1D6" ++
    "ZQ11296gz3CM4XGee4hD2Z9X66C45B1C141011111ZBX1aA6cPIXV2XLX896FGF31O2X1010301010101ZTJ97P4" ++
    "01PAYP35252522X3B1P1I111E2DX2ZQY5XKa80a2S3XGF0VVDT5XA5T2X34714XAaT296X34X34X78XJCA1E1611" ++
    "1A1E16113XJCfM9LA7O51X918Y55201XB11302MAM9UY1I11ALAPY6XN61Y031157121S2240X0S3SX371TPXLAL" ++
    "AIDHZEY8XNXIDXIDX7896X5341MdQX91131G2XNX0A08X0VLXAKRM9Y6VF9XR70DO796XK19438X3209Y4431C10" ++
    "X3H1X463XU610131E197XQ596317212L1611141921222060562634B910201X51910201317D1TYA5943UY5108" ++
    "9b6XL28N5X2Y030B9X6XO796JSQ2E4966bPXQZ5Y9L72027111T1128C9Y672XD2711RXU808Y930IY8c7X0F968" ++
    "1XC18F9OT2L1DY96111XB3011188965111X4111579fMM9G1X834DAYL0YFyPZ6ZEHc3YoCZ0FXXFGLAZyQ5o6cr" ++
    "PXPXs6nO7U196YE196T24BXM93C99K5IjGXC39c6XVa0YA4XO7GY0111B1Eb_N8XcLX99et7316111f2F0T220E3" ++
    "8iBYe4ZA5C387931aYH9m6XD2MmU4358726U3aK2jRYK1Y6112021231B10161Y01327161R131410361gJ2O1O1" ++
    "U1O1U1O1U1O1U1O172XHm0XM4XH80E0M41EXYGU65cL61G2611145XTX10ZGXC3D2940g1UHXPkMX9cMXAl56131" ++
    "11E1c4B6X9YB49Xb631Q1110201913101060401010121110201010101011102316131310191G52141GZfK9XW" ++
    "6XfsVX0aXP6cT2bq1EdfGFpDYj2mTXl2awA5aYVrtgGdF"),
  (["xids", "xidstart"],
    "Y1P6PXF0A0405M1U1k94BE47010a141132106012101J1YI1aA8b51X5206X8Y7Q43XDXAX311Z210F171A220G0" ++
    "1TTYOB0OX091405L409030NO7A5N15HX9XQXL30I079FF47212L16103330G0D112E1A085412L16111111V310J" ++
    "2G8121L16111430I0F1N0B7212L16111430U112F0H015321331101131323BM0XK7121M1F30Q22021U047121M" ++
    "191430V111F1H8121X820G05282O55H3N181026XQXF10D6XQ110141N101910A02410L3X00XV71X3R4ZJXAK0G" ++
    "5433031724CC0HX510502XA1gC132610132X8132X0132610132E1XO132Y2X5FGYL253pB2G1P5YA3A7HDIEHEC" ++
    "12FXJX3040Y3YO7X8105Y5AUXHT24BXB4PXMM9XKYI0YTXEH7XMTD1AXBQX3X92AX32A5XA22X931511305bVY0e" ++
    "L252X525271010101U2XK1610321633254C5216ZK0D0GCZ50402910256010101F235440HX8YpNd46331CX510" ++
    "502XN70GM9616161616161616n62P874244YL621YP135XA1YTHVXGFm0cjVY0rqCY3XD2eC3FA1KXEGU2YFX782" ++
    "Z62Y2211017LF12131MTXJEXHXU53011BRAMPS7XES0G419A41X8N217KM303XH1031242010O22A72C52525961" ++
    "61XA1D6ZITgz3CM4XGee4hD2Z9X66C450191C141011111ZBX1aA6cPIXV2XLX89ZN010301010101ZTX4P6PBXN" ++
    "2U35252522X3B1P1I111E2DX2ZQY5XKeBS3XGXFVDT5X5AT2X34714XAaTIX34X34X78XJCA1E16111A1E16113X" ++
    "JCfM9LA7O51X918Y55201XB11302MAM9UY1I11ALAPY6XN61Y00F3121SXAS3SX371RRXLALAIDHZEY8XNXIDXID" ++
    "X3X6R9MdQX961G2XRSA08LXAHXEKRMCXKXP120DXCX0OQX3T0208X230CXFE3L010X3H1OJ1XV610131E197XEX6" ++
    "7212L16111430I0C4U910201X510P010XCXKI3K2UXFK110bOXEX93X4XFK0XRXAD0Y7QX56bPXBZKXVV7202711" ++
    "1NF010YU72X6G010S0AX770L0BXDJ0IY8c7X0V81X4H0XHTZG6111X5L0P5111VE0g7IF01C1X1ZS0YFyPZ6ZEHc" ++
    "3YoCZ0FXXFH5PZyQ5o6crPTXt2nO7UHYEHTIXFG3VK5IjGXCcJXVa0YA50Y2CY0110Sb_N8XcLX99et7316111f2" ++
    "F0T220E38iBYe4ZA5C3879bx6YK1Y6112021231B10161Y01327161R131410361gJ2O1O1U1O1U1O1U1O1U1O17" ++
    "XvKU65e5XTaIXCA6G0g1TIXBl4Rd4T20lF613111E1c4XRY370XbK31Q11102019131010604010101211102010" ++
    "10101011102316131310191G52141Gag4XfsVX0aXP6cT2bq1EdfGFpDYj2mTXl2awA5aYV")]

/-- The characters that have a property, by any of its names. -/
def find? (name : String) : Option CharSet :=
  (table.find? fun e => e.1.contains name).map fun e => .ofRanges (Table.ranges e.2)

end ScriptMatrix.Unicode.Property
