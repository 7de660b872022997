import ChatCommand.Text.Table

/-!
# Scripts

The scripts, each with the characters that belong to it alone and with those that are used with it.
-/

namespace ChatCommand.Text

/-- A script. -/
structure Script where
  names : List String
  /-- The characters of the script. -/
  table : Table
  /-- The characters that are used with the script, where these are not its own. -/
  extended? : Option Table

/-- The scripts by name. -/
def scripts : List Script := [
  ⟨["adlm", "adlam"], .packed "FDTcC44a42", some (.packed "BRj1w1HDa1DV51ERCeC44a42")⟩,
  ⟨["ahom"], .packed "CYI0r2f4n", none⟩,
  ⟨["hluw", "anatolianhieroglyphs"], .packed "DKQ0Q7", none⟩,
  ⟨["arab", "arabic"],
    .packed (
      "BQo5161e131w1abq1D01yC8BcGov125C31tCOH4D7gK32C82Bi71wgD451DrEFfvBv3Bj4CIZs41r1211211a141" ++
      "111614111111312112111111111121124171414111a1h53151hBg2"),
    some (.packed <|
      "BQo51Fz1yC8BcGov125C31tGJr1DV51CEC6D7gMd2Bi71wgD451DrBBnsDD0vBv3Bj4CIZs41r1211211a141111" ++
      "614111111312112111111111121124171414111a1h53151hBg2")⟩,
  ⟨["armn", "armenian"], .packed "BKxB22Be23CPDv5", some (.packed "Vk1PcB22Be23CPDv5")⟩,
  ⟨["avst", "avestan"], .packed "CVAoBi37", some (.packed "F31MLc2CIK6Bi37")⟩,
  ⟨["bali", "balinese"], .packed "HK0C51Be", none⟩,
  ⟨["bamu", "bamum"], .packed "BTOwCgCAUoPt", none⟩,
  ⟨["bass", "bassavah"], .packed "DVG0u26", none⟩,
  ⟨["batk", "batak"], .packed "HPcBg84", none⟩,
  ⟨["beng", "bengali"], .packed "CPk418222m1711342922248142152p",
    some (.packed "Tg1BUs2h2q418222m1711342922248142152pFDt11122118181214123BMHd1")⟩,
  ⟨["bhks", "bhaiksuki"], .packed "CZRk91B91eat", none⟩,
  ⟨["bopo", "bopomofo"], .packed "Uq2MPtB7D4w",
    some (.packed "Tr113d1g2MIl34a1da42161Ff19B7D4wCDYd2Hu5")⟩,
  ⟨["brah", "brahmi"], .packed "CWK8C64B091", none⟩,
  ⟨["brai", "braille"], .packed "KYgH4", none⟩,
  ⟨["bugi", "buginese"], .packed "HCws22", some (.packed "HCws22BNHr1")⟩,
  ⟨["buhd", "buhid"], .packed "GJck", some (.packed "GJ129k")⟩,
  ⟨["cans", "canadianaboriginal"], .packed "FM8RsPkByCSMqg", none⟩,
  ⟨["cari", "carian"], .packed "CST4Bd", some (.packed "F31IQy121DUb1CGCmBd")⟩,
  ⟨["aghb", "caucasianalbanian"], .packed "CTLcBgb1", some (.packed "Vg1B81B81CSNdBgb1")⟩,
  ⟨["cakm", "chakma"], .packed "CWRcBh1i", some (.packed "CSeaBSwaCSFiBh1i")⟩,
  ⟨["cham"], .packed "BUMwBj9e2a24", none⟩,
  ⟨["cher", "cherokee"], .packed "FJkCe26BPKyC8", some (.packed "Vc31162m2b2EMuCe26BPKyC8")⟩,
  ⟨["chrs", "chorasmian"], .packed "CWI0s", none⟩,
  ⟨["zyyy", "common"],
    .packed (
      "0Btq6qBb1f15n1v1MhB3552kD81916111Rp161e131w1Ec1Oc1Dl2BIh1L94I21BQ73Bz2Fn211BI51d17416132" ++
      "1Vhc2Cf1b3b1fhxBrB213261r1hB534SimblZsH4Rg2w1CxO8CmL6l111pf844Cj231Ci2E3gwB291BcBsvC9Bb1" ++
      "CgEoHB4BsYIwyCu3ElaGs1Eg1Kz1e2WJu2Fsamz1j14E311wq6qba1B92Bs717a5H634B939C8dBfB9GcrBYU44E" ++
      "F8Gy6M4EcD8BoGuaB32Bq3h827u4BpFxkckcCf9pDrCd1Bz122122241c11171Bt1428171s141511371Jg2I42B" ++
      "eFPdBwC4BpTmB84Cscf2f1f1B1aEuBkq12dB84972e6EaBBc4h3d3Db4Cn6c41fc4Bk8a6B48u2c42BqJgce2d3a" ++
      "5Bk7f2b697E31CuBGJHz1uCo"),
    some (.packed <|
      "0Btq6qBb1c1215n1v1Mh31a1131191116552kDi16111Rp1Fz1Oc1BM41L94EKvc2x1v1a12171b3b1fhxBrB213" ++
      "261r1hB534SimblZsH4Rg2w1CxO8n1o2a14111qLm131d1d1l1Opov1Bdfc4Eha5Cov1HB4BsYJ4qCu3BB41e2WP" ++
      "oaml2c1j14E311wq6q6Dj717a5L6dBfB9CDGjGy6M4EcD8BoGuaB32Bq3h827u4BpFxkckcCfr7DrCd1Bz122122" ++
      "241c11171Bt1428171s141511371Jg2I42BeFPdBwC4BpTmB84Cscf2f1f1B1aEuBkq12dB849n6EaBBc4h3d3Db" ++
      "4Cn6c41fc4Bk8a6B48u2c42BqJgce2d3a5Bk7f2b697E31CuBGJHz1uCo")⟩,
  ⟨["copt", "qaac", "coptic"], .packed "BBmeLCgD857",
    some (.packed "F31Q813211D02D0eLCgD857Hr1CGF4s")⟩,
  ⟨["xsux", "cuneiform"], .packed "DAU0ZmCuD315bFg", none⟩,
  ⟨["cprt", "cypriot"], .packed "CUFc6211B8123121", some (.packed "CSHk34B939BW06211B8123121")⟩,
  ⟨["cpmn", "cyprominoan"], .packed "DFAoCr", some (.packed "CSHk2MT2Cr")⟩,
  ⟨["cyrl", "cyrillic"], .packed "BCgDp2EpGJsbEg1C41EMnwBGX4CoXYm2CJV4Bqx1",
    some (.packed "Tg1Bv31111112151GmIgGJsbEg1C41Dj1EJ3wBv1BGV8CoXYm2CJV4Bqx1")⟩,
  ⟨["dsrt", "deseret"], .packed "CTCwC8", none⟩,
  ⟨["deva", "devanagari"], .packed "CM0C94f2qBRPcwBFEoa",
    some (.packed "Tg1BSjCb2B7FHcB312BC61BKZraEmwBFEoa")⟩,
  ⟨["diak", "divesakuru"], .packed "CYW872128121u122c9a", none⟩,
  ⟨["dogr", "dogra"], .packed "CYP4Bo", some (.packed "COscBRKwaBEOuBo")⟩,
  ⟨["dupl", "duployan"], .packed "ERLcCz5d397a24", some (.packed "F31Qf211o2LUf1EEUjCz5d397a28")⟩,
  ⟨["egyp", "egyptianhieroglyphs"], .packed "DFDsBEuaEGz", none⟩,
  ⟨["elba", "elbasan"], .packed "CTK0B4", some (.packed "F31Qd1CSOiB4")⟩,
  ⟨["elym", "elymaic"], .packed "CWJcn", none⟩,
  ⟨["ethi", "ethiopic"],
    .packed (
      "EY0C1142711142B5142x142711142f1Bl142Bv2w3qHC6n9717171717171717BIFu626269717DIQ1714121f"),
    some (.packed <|
      "Vq1EC9C1142711142B5142x142711142f1Bl142Bv2w3qHC6n9717171717171717BIFu626269717DIQ1714121" ++
      "f")⟩,
  ⟨["gara", "garay"], .packed "CVQoB23t82", some (.packed "BR01e131CTZ4B23t82")⟩,
  ⟨["geor", "georgian"], .packed "EO8B211512B714DE8B723ELkB21151",
    some (.packed "F31BI91DAuB211512BcDE8B723Zm1DLxB21151H71")⟩,
  ⟨["glag", "glagolitic"], .packed "MAwCoEPDs71h271215",
    some (.packed "F31Qb111Km121H51DDd1EFa1DEtCoNf1BGWj1DHTs71h271215")⟩,
  ⟨["goth", "gothic"], .packed "CSX4r", some (.packed "F31Qc221B41CSAer")⟩,
  ⟨["gran", "grantha"], .packed "CXFk418222m1712152922232161572735",
    some (.packed "CO92h2RseEPw112u332BC61COFb418222m1712151a22232161572735DJv211")⟩,
  ⟨["grek", "greek"],
    .packed (
      "Yg4132411411113111k1BregGWu5Be545Cc1Iwm262B226281111111v2Bh1f1e261j2319I71BLV21XMiC7h1CE" ++
      "ZrBy"),
    some (.packed <|
      "F31Q82211111a1Ba121B682411411113111k1BregGWu5Be545Cc3Ium262B226281111111v2Bh1f1e261j2319" ++
      "Cm1Fk1BLV21XMiC7h1CEZrBy")⟩,
  ⟨["gujr", "gujarati"], .packed "CWp319131m1712152a131321f42c77",
    some (.packed "CO92h2Hv319131m1712152a131321f42c77BQZsa")⟩,
  ⟨["gong", "gunjalagondi"], .packed "DABc6121B112167a", some (.packed "F31CJo2CXMi6121B112167a")⟩,
  ⟨["guru", "gurmukhi"], .packed "CT5316422m17121212211542233174117h",
    some (.packed "CO92h2Eb316422m17121212211542233174117hBRDla")⟩,
  ⟨["gukh", "gurungkhema"], .packed "DSO8Bm", some (.packed "COt1DPZeBm")⟩,
  ⟨["han", "hani"],
    .packed (
      "MSoq1ChcFyBb111p9e4BAsHB4BsWL4YIwK62CyBGA82c2BNKeBTQowELe6G62GE2eHZlfRaCQiP2BPuFH75EMg"),
    some (.packed <|
      "F31MNkq1ChcFyqg131d1d1d2169F71E4gwB291BcB4BkBdfcBf1Cgpa5Cov1HB4BsWL4BXs8WKwK62CyYb2Hu5BE" ++
      "Tw2c2BBF2iILi2DTaBTQowELe6G62GE2eHZlfRaCQiP2BPuFH75EMg")⟩,
  ⟨["hang", "hangul"], .packed "EQwH4IGm2H5CmD5vBtvBGNdtRvLYccn4BdKVwv36262623",
    some (.packed "EQwH4IFd34a1de361Ff1BhCmD5vBtvBGNdtRvLYccn4BdKM92Hu5Bmv36262623")⟩,
  ⟨["rohg", "hanifirohingya"], .packed "CVOwB48a", some (.packed "BR01e131w1E31CTSbB48a")⟩,
  ⟨["hano", "hanunoo"], .packed "GIgl", some (.packed "GIgn")⟩,
  ⟨["hatr", "hatran"], .packed "CULkj1255", none⟩,
  ⟨["hebr", "hebrew"], .packed "BNlBj8r46CPBcq151112121a",
    some (.packed "Vj2S0Bj8r46CPBcq151112121a")⟩,
  ⟨["hira", "hiragana"], .packed "NF5Ce63EAW9Hzi1t3RRx1",
    some (.packed "NDd34a1dg611423Ce28Ci2CEDs2Hu5a1B92BWG9Hzi1t3RRx1")⟩,
  ⟨["armi", "imperialaramaic"], .packed "CUH4m19", none⟩,
  ⟨["qaai", "zinh", "inherited"],
    .packed (
      "VcD4Hp2Mkbq1Ug4ETfvO931d17416132FiBsOk2FexEE94Cz2CEElggeBB31Ga1EMa1BZJ8Ba2nP43h827u4BGVD" ++
      "uGo"),
    some (.packed <|
      "Vr1211c1237212g121i1514BQ82ETfvUzBi1115Ok2FewCIM0ggeBB31CEBuBa2nP43h827u4BGVDuGo")⟩,
  ⟨["phli", "inscriptionalpahlavi"], .packed "CVDcj58", none⟩,
  ⟨["prti", "inscriptionalparthian"], .packed "CVCgm28", none⟩,
  ⟨["java", "javanese"], .packed "BUJcC62a42", some (.packed "BUJcC61b42")⟩,
  ⟨["kthi", "kaithi"], .packed "CWNsBva1", some (.packed "COuaKBd1BHJiaBCNiBva1")⟩,
  ⟨["knda", "kannada"], .packed "DKwd131n1a152913147262142a13",
    some (.packed "CO92h2W2d131n1a152913147262142a13EIs11261n111BMC36")⟩,
  ⟨["kana", "katakana"], .packed "NHtCi23GogFsBb1CgCDV2a1B9BWFu4171211Hz3Be1e4",
    some (.packed "Vh1t1MH134a1dg61142Cj43CoGogFsBb1CgCDN12HuBrBWFs4171211Hz3Be1e4")⟩,
  ⟨["kawi"], .packed "DAMwh1B53t", none⟩,
  ⟨["kali", "kayahli"], .packed "BUFsBa11", some (.packed "BUFsBc")⟩,
  ⟨["khar", "kharoshthi"], .packed "CUTk41258131t234a79", none⟩,
  ⟨["kits", "khitansmallscript"], .packed "DWQ41HKrN2B51", none⟩,
  ⟨["khmr", "khmer"], .packed "GL4Cm2a6aNiw", none⟩,
  ⟨["khoj", "khojki"], .packed "CWYgi1Bb", some (.packed "CZiaBRA8aBCY6i1Bb")⟩,
  ⟨["sind", "khudawadi"], .packed "CXDcBn5a", some (.packed "COs2BRL6aBDD2Bn5a")⟩,
  ⟨["krai", "kiratrai"], .packed "DVXcBm", none⟩,
  ⟨["lao", "laoo"], .packed "DZ5211151o111n2511171a24", none⟩,
  ⟨["latn", "latin"],
    .packed (
      "Btq6qBb1f15n1v1MhB35HDnB26Bd545d1ByBtH4K91d1gdDx261r1hB5CZ3wBHO2Cu3Bv221118leWoB71914VTy" ++
      "7BD6q6qCFx61B619CGWtv66"),
    some (.packed <|
      "Btq6qBb1c1215n1v1Mh31a11311911165rf1211c1237212B21514dHp2BI22CCg1DHgB26Bd545d1ByBl17H4If" ++
      "1Bt1d1gdCb1Bl261r1hB5CZ3wLb1BHBs8qCu3Bv221118leIe1O9B71914VTy7BD6q6qCFx61B619CGWtv66")⟩,
  ⟨["lepc", "lepcha"], .packed "HR4Bk3f33", none⟩,
  ⟨["limb", "limbu"], .packed "GVsv1c4c413c", some (.packed "COt1EGyv1c4c413c")⟩,
  ⟨["lina", "lineara"], .packed "CTR4In9ma8", some (.packed "CSHrB9BI4In9ma8")⟩,
  ⟨["linb", "linearb"], .packed "CSAgc1q1j121f2eyDf", some (.packed "CSAgc1q1j121f2eyDf534B939")⟩,
  ⟨["lisu"], .packed "BTC0BcBHOg1", some (.packed "Tg1g1MJo2BFYcBcBHOg1")⟩,
  ⟨["lyci", "lycian"], .packed "CSS8t", some (.packed "IW21CJW5t")⟩,
  ⟨["lydi", "lydian"], .packed "CUNcq51", some (.packed "F31MLd1CHWuq51")⟩,
  ⟨["mahj", "mahajani"], .packed "CWTkB3", some (.packed "F31CJocBRKwaBCTaB3")⟩,
  ⟨["maka", "makasar"], .packed "DAM0p", none⟩,
  ⟨["mlym", "malayalam"], .packed "DOgd131Bf13164g2q",
    some (.packed "CO92h2Zmd131Bf13164g2qEF61n1BMC53")⟩,
  ⟨["mand", "mandaic"], .packed "CGos21", some (.packed "BSg1O7s21")⟩,
  ⟨["mani", "manichaean"], .packed "CUYwB34c", some (.packed "BSg1CTGfB34c")⟩,
  ⟨["marc", "marchen"], .packed "CZUow2m1e", none⟩,
  ⟨["gonm", "masaramgondi"], .packed "CZYo7121B83112198a", some (.packed "COs2CXJu7121B83112198a")⟩,
  ⟨["medf", "medefaidrin"], .packed "DWEgCj", none⟩,
  ⟨["mtei", "meeteimayek"], .packed "BUT4nFlBa2a", none⟩,
  ⟨["mend", "mendekikakui"], .packed "FDM8Fh2g", none⟩,
  ⟨["merc", "meroiticcursive"], .packed "CUQwo4k2Ba", none⟩,
  ⟨["mero", "meroitichieroglyphs"], .packed "CUQ0w", some (.packed "IW51CLTuw")⟩,
  ⟨["miao", "plrd"], .packed "DWJsC34Bl7h", none⟩,
  ⟨["modi"], .packed "CYAwBxba", some (.packed "BUA0aBEAmBxba")⟩,
  ⟨["mong", "mongolian"], .packed "GOo2211k6Ch7B7CRK5d",
    some (.packed "GOoq6Ch7B7CBg1EIh254CKZwd")⟩,
  ⟨["mro", "mroo"], .packed "DVC0v1a42", none⟩,
  ⟨["mult", "multani"], .packed "CXC0711141f1b", some (.packed "CVyaCUFs711141f1b")⟩,
  ⟨["mymr", "myanmar"], .packed "EJsEgBPXsvCpwBDQ8k", some (.packed "EJsEgBPSu1ExvCpwBDQ8k")⟩,
  ⟨["nbat", "nabataean"], .packed "CUIwv89", none⟩,
  ⟨["nagm", "nagmundari"], .packed "FCPkB6", none⟩,
  ⟨["nand", "nandinagari"], .packed "CZAo82Ba2b", some (.packed "COs2YwaEJl18171BMBx6BFAi82Ba2b")⟩,
  ⟨["talu", "newtailue"], .packed "GZcB84q6b32", none⟩,
  ⟨["newa"], .packed "CXMoCk15", none⟩,
  ⟨["nko", "nkoo"], .packed "CD4Bn23", some (.packed "BR01e131LkBn23CPBy2")⟩,
  ⟨["nshu", "nushu"], .packed "DWQ11RY6L0", none⟩,
  ⟨["hmnp", "nyiakengpuachuehmong"], .packed "FBOgB93e2a42", none⟩,
  ⟨["ogam", "ogham"], .packed "GE0t", none⟩,
  ⟨["olck", "olchiki"], .packed "HTcBc", none⟩,
  ⟨["onao", "olonal"], .packed "FCWoB741", some (.packed "COs2FAHuB741")⟩,
  ⟨["hung", "oldhungarian"], .packed "CVLcBfdBf76", some (.packed "IW2121DUb1f1CIUeBfdBf76")⟩,
  ⟨["ital", "olditalic"], .packed "CSVsB093", none⟩,
  ⟨["narb", "oldnortharabian"], .packed "CUX4w", none⟩,
  ⟨["perm", "oldpermic"], .packed "CSY0B7", some (.packed "F31Q8153a1K71CRRwB7")⟩,
  ⟨["xpeo", "oldpersian"], .packed "CTA8B04e", none⟩,
  ⟨["sogo", "oldsogdian"], .packed "CWD4B4", none⟩,
  ⟨["sarb", "oldsoutharabian"], .packed "CUW8w", none⟩,
  ⟨["orkh", "oldturkic"], .packed "CVHsC1", some (.packed "IW21DUd1CIRbC1")⟩,
  ⟨["ougr", "olduyghur"], .packed "CWG8q", some (.packed "BSg1CTHt1BFxq")⟩,
  ⟨["orya", "oriya"], .packed "DA9318222m1712152922237342152i",
    some (.packed "CO92h2Lf318222m1712152922237342152iETm1n1")⟩,
  ⟨["osge", "osage"], .packed "CTHsB04B0", some (.packed "Vd12161C41CSJzB04B0")⟩,
  ⟨["osma", "osmanya"], .packed "CTGgu2a", none⟩,
  ⟨["hmng", "pahawhhmong"], .packed "DVHcByaa171l5j", none⟩,
  ⟨["palm", "palmyrene"], .packed "CUI0w", none⟩,
  ⟨["pauc", "paucinhau"], .packed "CZIoBl", none⟩,
  ⟨["phag", "phagspa"], .packed "BUAgBk", some (.packed "GOq211CG11EIi1BGX1Bk")⟩,
  ⟨["phnx", "phoenician"], .packed "CUMgs31", none⟩,
  ⟨["phlp", "psalterpahlavi"], .packed "CVE8i74c7", some (.packed "BSg1CTLri74c7")⟩,
  ⟨["rjng", "rejang"], .packed "BUH4B0b1", none⟩,
  ⟨["runr", "runic"], .packed "GEwC33b", some (.packed "GEwCh")⟩,
  ⟨["samr", "samaritan"], .packed "CEwBa2f", some (.packed "CEwBa2fKJu1")⟩,
  ⟨["saur", "saurashtra"], .packed "BUC8By8c", none⟩,
  ⟨["shrd", "sharada"], .packed "CWUwCo", some (.packed "CO91FIt1112221BMCn621BCUnCo")⟩,
  ⟨["shaw", "shavian"], .packed "CTF4Bc", some (.packed "F31CTA0Bc")⟩,
  ⟨["sidd", "siddham"], .packed "CXXcBi2B2", none⟩,
  ⟨["sgnw", "signwriting"], .packed "EZCgS4f51f", none⟩,
  ⟨["sinh", "sinhala"], .packed "DS131i3o191127314611186a23CTCck",
    some (.packed "COs2BD731i3o191127314611186a23ECl1COZqk")⟩,
  ⟨["sogd", "sogdian"], .packed "CWEgB6", some (.packed "BSg1CULzB6")⟩,
  ⟨["sora", "sorasompeng"], .packed "CWQ0p7a", none⟩,
  ⟨["soyo", "soyombo"], .packed "CZFkCb", none⟩,
  ⟨["sund", "sundanese"], .packed "HNkBsH48", none⟩,
  ⟨["sunu", "sunuwar"], .packed "CZPsyea", some (.packed "Vc2119121s131CYT2yea")⟩,
  ⟨["sylo", "sylotinagri"], .packed "BTYoB9", some (.packed "COs2DkaBRG0B9")⟩,
  ⟨["syrc", "syriac"], .packed "BXse1Bo23Hkb",
    some (.packed "Vf22211l1237211Ub1e221w1abq1Dze1Bo23HkbFX9111")⟩,
  ⟨["tglg", "tagalog"], .packed "GHkm91", some (.packed "GHkm91l2")⟩,
  ⟨["tagb", "tagbanwa"], .packed "GK8d1312", some (.packed "GJ12B5d1312")⟩,
  ⟨["tale", "taile"], .packed "GY0u25", some (.packed "Vc25231DPvaCM6u25")⟩,
  ⟨["lana", "taitham"], .packed "HDsBr1t2b6a6e", none⟩,
  ⟨["tavt", "taiviet"], .packed "BUQgBvo5", none⟩,
  ⟨["takr", "takri"], .packed "CYEgBm6a", some (.packed "COs2BRL6aBEE6Bm6a")⟩,
  ⟨["taml", "tamil"], .packed "DDu216331432111232333c4533142161elCXL1Bed1",
    some (.packed "CO92h2P0216331432111232333c4533142161elEPz1BMI81BDA5111Bj2DKzBed1")⟩,
  ⟨["tnsa", "tangsa"], .packed "DVDcC71a", none⟩,
  ⟨["tang", "tangut"], .packed "DWQ01vGOg8VcO89", some (.packed "NCwgNr1DIYw1vGOg8VcO89")⟩,
  ⟨["telu", "telugu"], .packed "DHcd131n1g291314721321242a79",
    some (.packed "CO92h2Sid131n1g291314721321242a79EMa1n1")⟩,
  ⟨["thaa", "thaana"], .packed "CBcBe", some (.packed "BR01e221BsaHqBeCPJ41a1")⟩,
  ⟨["thai"], .packed "DVlBm5s", some (.packed "Tg1q1B71B91CYvBm5s")⟩,
  ⟨["tibt", "tibetan"], .packed "ECoC01B04B31B01f1742", some (.packed "ECoC01B04B31B01f1742IUt4")⟩,
  ⟨["tfng", "tifinagh"], .packed "MJcBk72e1", some (.packed "Ve1112111LNqBk72e1")⟩,
  ⟨["tirh", "tirhuta"], .packed "CXQ8C08a", some (.packed "CO92h2FJ01BMC5aBDPyC08a")⟩,
  ⟨["todr", "todhri"], .packed "CTPcBg", some (.packed "Vd121219111C21CSRdBg")⟩,
  ⟨["toto"], .packed "FBZkv", some (.packed "Tg1FBG3v")⟩,
  ⟨["tutg", "tulutigalari"], .packed "CXJ4a11211B21a1121141a1282",
    some (.packed "DNqaEJu111BMC36F71BDDqa11211B21a1121141a1282")⟩,
  ⟨["ugar", "ugaritic"], .packed "CSZcu11", none⟩,
  ⟨["vai", "vaii"], .packed "BTDcIc", none⟩,
  ⟨["vith", "vithkuqi"], .packed "CTN4b1f17121b1f1712", none⟩,
  ⟨["wcho", "wancho"], .packed "FCAwBm51", none⟩,
  ⟨["wara", "warangciti"], .packed "CYTkCbc1", none⟩,
  ⟨["yezi", "yezidi"], .packed "CVZkB61322", some (.packed "BR01e131BsaCUFyB61322")⟩,
  ⟨["yi", "yiii"], .packed "BRTsBGd3Bj", some (.packed "NDd25a28G71BEJgBGd3BjYUa5")⟩,
  ⟨["zanb", "zanabazarsquare"], .packed "CZDcC0", none⟩]

end ChatCommand.Text
