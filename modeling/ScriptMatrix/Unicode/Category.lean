import ScriptMatrix.Unicode.Partition

/-!
# `ScriptMatrix.Unicode.Category`: general categories

Every character is in one general category. Some names stand for several
categories together.
-/

set_option autoImplicit false

namespace ScriptMatrix.Unicode.Category

/-- The categories by their names, the short one first. -/
def partition : Partition where
  names := [
    ["cc", "cntrl", "control"], ["zs", "spaceseparator"], ["po", "otherpunctuation"],
    ["sc", "currencysymbol"], ["ps", "openpunctuation"], ["pe", "closepunctuation"],
    ["sm", "mathsymbol"], ["pd", "dashpunctuation"], ["nd", "digit", "decimalnumber"],
    ["lu", "uppercaseletter"], ["sk", "modifiersymbol"], ["pc", "connectorpunctuation"],
    ["ll", "lowercaseletter"], ["so", "othersymbol"], ["lo", "otherletter"],
    ["pi", "initialpunctuation"], ["cf", "format"], ["no", "othernumber"],
    ["pf", "finalpunctuation"], ["lt", "titlecaseletter"], ["lm", "modifierletter"],
    ["mn", "nonspacingmark"], ["cn", "unassigned"], ["me", "enclosingmark"],
    ["mc", "spacingmark"], ["nl", "letternumber"], ["zl", "lineseparator"],
    ["zp", "paragraphseparator"], ["cs", "surrogate"], ["co", "privateuse"]]
  table :=
    "0V1022302240502060207021892162219P402050A0B0A0CP406050600X0102033D020A0D0E0F060G0D0A0D06" ++
    "0H1A0C021A0H0E0I0H2209M6096CN60C790C090C090C090C090C090C090C090C090C090C090C090C090C090C" ++
    "090C090C090C090C090C090C090C090C090C090C090C090C090C090C190C090C090C090C090C090C090C090C" ++
    "190C090C090C090C090C090C090C090C090C090C090C090C090C090C090C090C090C090C090C090C090C090C" ++
    "090C091C090C090C291C090C091C092C193C091C092C291C091C090C090C091C090C190C091C092C090C091C" ++
    "1E090C2E390J0C090J0C090J0C090C090C090C090C090C090C090C090C190C090C090C090C090C090C090C09" ++
    "0C090C190J0C090C092C090C090C090C090C090C090C090C090C090C090C090C090C090C090C090C090C090C" ++
    "090C090C090C090C090C090C090C090C090C090C090C090C691C091C190C093C090C090C090C090CY4E0CQKH" ++
    "A3KBADK4A6K0A0K0AGLZF90C090C0K0A090C0M1K0C22090M3A1902092M090M091C09GM098CX290C192C290C0" ++
    "90C090C090C090C090C090C090C090C090C090C090C490C06090C091C19XICXF90C090C090C090C090C090C0" ++
    "90C090C090C090C090C090C090C090C090C090C090C0D0L4N190C090C090C090C090C090C090C090C090C090" ++
    "C090C090C090C090C090C090C090C090C090C090C090C090C090C090C090C090C090C091C090C090C090C090" ++
    "C090C090C190C090C090C090C090C090C090C090C090C090C090C090C090C090C090C090C090C090C090C090" ++
    "C090C090C090C090C090C090C090C090C090C090C090C090C090C090C090C090C090C090C090C090C090C090" ++
    "C090C090C090C090C090C090C0M09X5M1K025CX82070M1D130M0LXC70L020L120L120L0M7EQM3E321MAG5622" ++
    "13021D1LA20G022EVK0E9LK8923E1L0EZ220E0L6G0D0L5K1L1D0L3E189E2D1E02DM0G0E0L0ETLQM1EYOLAE0M" ++
    "D89EX0L8K1D022K0M1L031ELL3K0L8K0L2K0L4M12EM0EOL2M120M0EAM4ENA0E5M0G1M4L8EX8K0LNG0LVO0EXL" ++
    "L0O0L0E0O2L7O3L0O1E0L6E9L1218920K0EEL0O1M0E7M1E1M1ELM0E6M0E0M2E3M1L0E0O2L3M1O1M1O1L0E0M7" ++
    "O0M3E1M0E2L1M189E131H5D030E020L0M1L1O0M0E5M3E1M1ELM0E6M0E1M0E1M0E1M1L0M0O2L1M3L1M1L2M2L0" ++
    "M6E3M0E0M689L1E2L020M9L1O0M0E8M0E2M0ELM0E6M0E1M0E4M1L0E0O2L4M0L1O0M0O1L0M1E0MEE1L1M18920" ++
    "30M6E0L5M0L0O1M0E7M1E1M1ELM0E6M0E1M0E4M1L0E0O0L0O0L3M1O1M1O1L0M6L1O0M3E1M0E2L1M189D0E0H5" ++
    "M9L0E0M0E5M2E2M0E3M2E1M0E0M0E1M2E1M2E2M2EBM3O1L0O1M2O2M0O2L0M1E0M5O0MD89H2D530D0M4L0O2L0" ++
    "E7M0E2M0EMM0EFM1L0E0L2O3M0L2M0L3M6L1M0E2M1E0M1E1L1M189M620H6D0E0L0O120E7M0E2M0EMM0E9M0E4" ++
    "M1L0E0O0L0O4M0L0O1M0O1L1M6O1M5E1M0E1L1M189M0E1O0MBL1O1E8M0E2M0EX8L1E0O2L3M0O2M0O2L0E0D0M" ++
    "3E2O0H6E2L1M189H8D0E5M0L0O1M0EHM2ENM0E8M0E0M1E6M2L0M3O2L2M0L0M0O7M589M1O120MBEXFL0E1L6M3" ++
    "30E5K0L7208921MX4E1M0E0M0E4M0ENM0E0M0E9L0E1L8E0M1E4M0K0M0L6M089M1E3MVE0D22ED020D2L1D589H" ++
    "9D0L0D0L0D0L040504050O1E7M0EX3M3LDO0L420L1E4LAM0LX3M0D7L0D5M0D124D321MX4EXAO1L3O0L5O0L1O" ++
    "1L1E08925E5O1L1E3L2E0O2E1O6E2L3ECL0O1L1O5L0E0O089O2L0D19X5M090M490M1CXA20K0C2Eg8M0E3M1E6" ++
    "M0E0M0E3M1EX8M0E3M1EX0M0E3M1E6M0E0M0E3M1EEM0EXOM0E3M1EY2M1L228HJM2EFD9M59YLM1C5M170EpBD0" ++
    "20EG10EP4050M2EYA22P2E7M6EHL2O0M8EIL1O021M8EHL1MBECM0E2M0L1MBEXJL1O0L6O7L0O1LA22K02230E0" ++
    "L0M189M5H9M5257023L2G0L089M5EX2K0EXKM6E4L1EX1L0E0M4EY5M9EUM0L2O3L1O2M3O1L0O5L2M3D0M22189" ++
    "ETM1E4MAEXBM3EPM589H0M2DX1EML1O1L0M121EXKO0L0O0L6M0L0O0L0O1L7O5L9M1L089M589M526K025M1LDN" ++
    "0LFMXGL3O0EXEL0O0L4O0L0O4L0O1E7M0218926D9L8D822L1O0ETO0L3O1L1O0L2E189EXBL0O0L1O2L0O0L2O1" ++
    "M723EX3O7L7O1L1M22489M2E289ETK521C890C0M49XAM19227M7L220LCO0L6E3L0E5L0E1O0L1E0M4CXBKXUCC" ++
    "K0CX1KX4LXV90C090C090C090C090C090C090C090C090C090C090C090C090C090C090C090C090C090C090C09" ++
    "0C090C090C090C090C090C090C090C090C090C090C090C090C090C090C090C090C090C090C090C090C090C09" ++
    "0C090C090C090C090C090C090C090C090C090C090C090C090C090C090C090C090C090C090C090C090C090C09" ++
    "0C090C090C090C090C090C090C090C090C090C090C090C890C090C090C090C090C090C090C090C090C090C09" ++
    "0C090C090C090C090C090C090C090C090C090C090C090C090C090C090C090C090C090C090C090C090C090C09" ++
    "0C090C090C090C090C090C090C090C090C090C090C090C090C090C090C090C090C897C5M195M1C797C797C5M" ++
    "195M1C7M090M090M090M090C797CDM1C7J7C7J7C7J7C4M0C193J0A0C0A2C2M0C193J0A2C3M1C193M0A2C794A" ++
    "2M1C2M0C193J0A1M01AG47521F0I040F1I040F027Q0R0G41028F0I023B1226040502A6020B02910G4M0G9H0K" ++
    "0M1H5624050K0H9624050M0KCM23X0MELCN3L0N2LBMED190D390D1C092C192C0D090D16094D590D090D090D0" ++
    "93D0C093C0E3C0D1C1916490C3D060D1C0D0HFPX290C0P3H0D1M364D461D360D160D160D660DU61D160D060D" ++
    "U6eBD740504050DJ61D64050DYG60DT6ODX765DY7MLDAMKHXRDYDHLDbM60D860DXL67DZE60DdN40504050405" ++
    "04050405040504050HTDXB6440506U405040504050405040506FDdV6a2405040504050405040504050405040" ++
    "504050405040506XU405040506V40506e1DXF6KD165DX6M1DVM0DZ89XFCXF90C092C190C090C090C093C090C" ++
    "190C5K192C090C090C090C090C090C090C090C090C090C090C090C090C090C090C090C090C090C090C090C09" ++
    "0C090C090C090C090C090C090C090C090C090C090C090C090C090C090C090C090C090C090C090C090C090C09" ++
    "0C090C090C090C090C090C090C090C1D590C090C0L290C0M423H021CX5M0C0M4C0M1EXNM6K020MDL0EMM8E6M" ++
    "0E6M0E6M0E6M0E6M0E6M0E6M0E6M0LV21F0I0F0I022F0I020F0I02870217020F0I021F0I0405040504050405" ++
    "024K02971237020402CD122405040504050405070MX1DPM0DYOMBDcLMPDF1022D0K0E0P04050405040504050" ++
    "4050D14050405040504050704051D0P8L3O170K4D1P2K0E020D1M0EYLM1L1A1K1E070EYP20K2E0M4EXAM0EYT" ++
    "M0D1H3D9EVDX5M8D0EFDUM0H9DTH7D0HEDVH9DX6HEDfVEcjVDXVEqmKK0EXZMM2DXMM8EX7K521EeBK022EF89E" ++
    "1MJ90C090C090C090C090C090C090C090C090C090C090C090C090C090C090C090C090C090C090C090C090C09" ++
    "0C090C0E0L0N220L920K090C090C090C090C090C090C090C090C090C090C090C090C090C090C0K1L1EY5P9L1" ++
    "25M7AMK8A190C090C090C090C090C090C090C290C090C090C090C090C090C090C090C090C090C090C090C090" ++
    "C090C090C090C090C090C090C090C090C090C090C090C090C090C090C090C090C090C090C0K0C790C090C091" ++
    "C090C090C090C090C0K0A190C090C0E090C090C290C090C090C090C090C090C090C090C090C090C094C094C0" ++
    "90C090C090C090C090C090C090C093C090C091C0M190C0M0C0M0C090C090C090C090MKK290C0E0K1C0E6L0E2" ++
    "L0E3L0EMO1L1O0D3L0M2H5D130D0M5EXJ23M7O1EXHOFL1M72189M5LHE522E020E1L089ERL721EMLAO1MA20ES" ++
    "M2L2O0EXEL0O1L3O1L1O22CM0K089M321E4L0K0E889E4M0EX8L5O1L1O1L1M8E2L0E7L0O0M189M123EFK0E5D2" ++
    "E0O0L0O0EXHL0E0L2E1L1E4L1E0L0E0MNE1K021EAO0L1O121E0K1O0L0M9E5M1E5M1E5M8E6M0E6M0CXAA0K3C8" ++
    "K0A1M3CYFEX2O1L0O1L0O120O0L0M189M5Egz3MBEMM3EXGM3SX_VTcdVEhDM1EZ9MX5C6MBC4M4E0L0E960ECM0" ++
    "E4M0E0M0E1M0E1M0EZBAGMFEhA5040DFEXVM1EXLM6D0MVEB30D2LF26405020M5LF2071B14050405040504050" ++
    "405040504050405021405023B222M0237040504050405022607062M0203021M3E4M0Ea6M1G0M022302240502" ++
    "060207021892162219P402050A0B0A0CP40605060405020405021E9K0EXCK1EUM2E5M1E5M1E5M1E2M23160A0" ++
    "D031M0D063D1M9G2D1M1EBM0EPM0EIM0E1M0EEM1EDMX1EZQM422M3HXCM2D8PXKH3DGH1D2M0DCM2D0MXEDXCL0" ++
    "Ma1ESM2EXGMEL0HQM3EVH3M8EJP0E7P0M4EX5L4M4ETM020EX3M3E720P4MX99X7CX7EYDM189M59X3M3CX3M3EX" ++
    "7M7EXJMA209AM09EM096M091M0CAM0CEM0C6M0C1M2EXJMBEfMM8ELM9E7MNK5M0KX9M0K8MY4E5M1E0M0EXBM0E" ++
    "1M2E0M1EMM020H7EMD1H6EUM7H8MXFEIM0E1M4H4ELH5M220EPM420MXVEXNM3H1E1HFM1HXDE0L2M0L1M4L3E3M" ++
    "0E2M0ESM1L2M3L0H8M628M6ESH120ESH2MVE7D0ERL1M3H426M8EXLM226ELM1H7EIM4H7EHM623MBH6MYFEY8MX" ++
    "M9XIMCCXIM6H5EX3L3M789M589E3K0E09LM2L470K0CLM761McFHUM0EX9M0L170M1E1MFE2MXML3ESH9E0M7ELL" ++
    "AH324MLEHL323MX5EKH6MJEMM8O0L0O0EXKLE26M3HJ89L0E1L1E0M8L2O0EXCO2L3O1L121G023L0M9G0M1EOM6" ++
    "89M5L2EX3L4O0L7M08923E0O1E0M7EX2L021E0M8L1O0EXFO2L8O1E323L320O0L089E020E022M0HJMAEHM0EOO" ++
    "2L2O1L0O0L125L0E1L0MXTE6M0E0M0E3M0EEM0E920M5EXEL0O2L7M489M5L1O1M0E7M1E1M1ELM0E6M0E1M0E4M" ++
    "0L1E0O1L0O3M1O1M1O2M1E0M5O0M4E4O1M1L6M2L4MAE9M0E0M1E0M0EX5M0E0O2L5M0O0M1O0M0O3M0O1L0O0L0" ++
    "E0L0E021M021M7L1MSEXKO2L7O1L2O0L0E3248921M020L0E2MTEXFO2L5O0L0O3L1O0L1E120E0M789Mb5EXEO2" ++
    "L3M1O3L1O0L12ME3L1MX1EXFO2L7O1L0O0L122E0MA89M52CMIEXAL0O0L0O1L5O0L0E020M589M58JMREQM1L0O" ++
    "0L0O1L3O0L4M389H122D0E6MbOEXBO2L8O0L120MZ39VCV89H8MBE7M1E0M1E7M0E1M0ENO5M0O1M1L1O0L0E0O0" ++
    "E0O0L022M889MY5E7M1EX6O2L3M1L1O3L0E020E0O0MQE0L9EX7L5O0E0L327L0M7E0L5O1L2EXDLCO0L122E024" ++
    "MCEY8M629MbLEX020MD89M5E8M0EX4O0L6M0L5O0L0E024M989HIM221ETM1LLM0O0L6O0L1O0L1MY8E6M0E1M0E" ++
    "X5L5M2L0M0L1M0L6E0L0M789M5E5M0E1M0EVO4M0L1M0O1L0O0L0E0M689MfLEIL1O121M6L1E0O0ECM0EX1O1L4" ++
    "M2O1L0O0L02C89L0MYKE0MEHKD733DGMC20EyPMZ5PZEM024MAEc3MYoBEZ021MCEXXFGFL0E5LEM9EZyQM4Eo6M" ++
    "crOETLBO2L289MXs5EnOM6EUM089M321EYEM089M5ETM1L420M9EXFL624D3K320D0M989M0H6M0EKM4EIMjFK2E" ++
    "X7K12289Mc59VCVHM23MZ4EYAM3L0E0OXMM6L3KCMXVK120K0L0MAO1MDEb_NM7EXcLMX8E9Met6K3M0K6M0K1M0" ++
    "Ef2MEE0MSE2M1E0MDE3M7EiBMYe3EZAM4ECM2E8M6E9M1D0L120G3MZwRDdF89M5DjJMYBLXDM1LMM8DZJMXRDdL" ++
    "M9DX6M1DXRO1L2D2O5G7L7D1L6DTL3DXSMKDY1L2D0MZPHJMBHJMBDYMM8HOMa69PCP9PC6M0CH9PCP90M091M19" ++
    "0M191M193M097C3M0C0M0C6M0CA9PCP91M093M197M096M0CP91M093M094M090M296M0CP9PCP9PCP9PCP9PCP9" ++
    "PCP9PCRM19O60CO60C59O60CO60C59O60CO60C59O60CO60C59O60CO60C590C0M18XHDlVLXMD3LXHD7L0DDL0D" ++
    "124MEL4M0LEMXYFC9E0CJM5C5McKL6M0LGM1L6M0L1M0L4M4KXTMX0L0MZFEXCM2L6K6M189M3E0D0MfVETL0MGE" ++
    "XBL389M430MkFEQK0L389McLETL1E089M320MkVE6M0E3M0E1M0EEM0Ec4M1H8L6MX89X1CX1L6K0M389M321MuG" ++
    "HXQD0H230H3MYBHXCD0HEMc1E3M0EQM0E1M0E0M1E0M0E9M0E3M0E0M0E0M5E0M3E0M0E0M0E0M0E2M0E1M0E0M1" ++
    "E0M0E0M0E0M0E0M0E0M0E1M0E0M1E3M0E6M0E3M0E3M0E0M0E9M0EGM4E2M0E4M0EGMXJ61MeDDXBM3DZ3MBDEM1" ++
    "DEM0DEM0DX4M9HCDb0MXNDSMCDXBM3D8M6D1MDD5MaPDdQA4DsNM3DGM2DCM2DZMM3DYUM5DBM3D0MEDBM3DXNM7" ++
    "D9M5DX7M7DTM1DBM3D1MXTDgJMBDDM1DCM2D9M4DXNM6DEM1DAM5D8M6DaIM0DYR89MXW5EXfsVMVEaXPM5EcTM1" ++
    "Ebq1MDEdfGMEEpDMYj1EmTMXl1EawAM4EaYVMrtYGG0MTGYVMZVLdFMX_mFTX__TM1TX__TM1"

/-- Names for several categories together. -/
def groups : List (List String × List String) := [
  (["c", "other"], ["cc", "cf", "cn", "co"]),
  (["l", "letter"], ["ll", "lm", "lo", "lt", "lu"]),
  (["lc", "casedletter"], ["ll", "lt", "lu"]),
  (["m", "mark", "combiningmark"], ["mc", "me", "mn"]),
  (["n", "number"], ["nd", "nl", "no"]),
  (["p", "punctuation", "punct"], ["pc", "pd", "pe", "pf", "pi", "po", "ps"]),
  (["s", "symbol"], ["sc", "sk", "sm", "so"]),
  (["z", "separator"], ["zl", "zp", "zs"])]

/-- The characters of the categories with the given short names. -/
def ofShortNames (wanted : List String) : CharSet :=
  let chosen := partition.names.map fun aliases => wanted.contains (aliases.headD "")
  partition.select fun i => chosen.getD i false

/-- The characters of a category, or of a group of them, by any of its
names. Surrogates are no characters and have no set. -/
def find? (name : String) : Option CharSet :=
  if name == "any" then some .all
  else if name == "ascii" then some (.range 0 0x7f)
  else if name == "assigned" then some (ofShortNames ["cn"]).complement
  else match groups.find? fun g => g.1.contains name with
    | some g => some (ofShortNames g.2)
    | none => if ["cs", "surrogate"].contains name then none else partition.find? name

end ScriptMatrix.Unicode.Category
