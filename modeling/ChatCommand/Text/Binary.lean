import ChatCommand.Text.Case

/-!
# Properties of characters

The properties that a character has or has not.
-/

namespace ChatCommand.Text

/-! ## Properties of letter case -/

/-- The code points that the run maps. -/
def CaseRun.domain (r : CaseRun) : Table where
  boundaries :=
    if r.step = 1 then #[r.first, r.last + 1]
    else ((List.range ((r.last - r.first) / r.step + 1)).flatMap fun i =>
      [r.first + i * r.step, r.first + i * r.step + 1]).toArray

/-- The characters that a case mapping changes. -/
def changedBy (runs : List CaseRun) (sequences : List (Nat × List Nat)) : Table :=
  .unions (runs.map (·.domain) ++ sequences.map fun s => .mk #[s.1, s.1 + 1])

/-- Characters that lower case changes. -/
def changesLowercased : Table := changedBy lowerRuns lowerSequences

/-- Characters that upper case changes. -/
def changesUppercased : Table := changedBy upperRuns upperSequences

/-- Digraphs with two capital parts. -/
def capitalDigraph : Table :=
  .mk #[0x1C4, 0x1C5, 0x1C7, 0x1C8, 0x1CA, 0x1CB, 0x1F1, 0x1F2]

/-- Characters that title case changes. -/
def changesTitlecased : Table :=
  (changesUppercased ∪ capitalDigraph) \ (titlecaseLetter ∪ georgianLetter)

/-- Characters that lower case leaves alone and case folding changes. -/
def otherCasefolded : Table := .packed
  "F11B51Cx1Bh1Ml1Dg1d232p231L51DYo6CIi9Op2Gc88888a321a321B6321BMDsC8VRk7c5"

/-- The capitals of Cherokee, which stand for both cases. -/
def cherokeeCapital : Table := .mk #[0x13A0, 0x13F6]

/-- Characters that case folding changes. -/
def changesCasefolded : Table := (changesLowercased \ cherokeeCapital) ∪ otherCasefolded

/-- Characters that a change of case changes. -/
def changesCasemapped : Table := .unions [changesLowercased, changesUppercased, changesTitlecased]

/-! ## Properties of identifiers -/

/-- Signs that patterns are written with. -/
def patternSyntax : Table := .packed
  "xfa7q411q4y711121112414131n1v1IN4o8f2j1aIhU0EgRiuBFgO8DkKp34pf1CEC52H92"

/-- Blanks in patterns. -/
def patternBlank : Table := .packed "95i1Cs1IQ82o2"

/-- Signs that may also begin an identifier. -/
def otherIdStart : Table := .packed "GSd2CIx1l1EFo2"

/-- Signs that may also stand in an identifier. -/
def otherIdContinue : Table := .packed "F31Tz1EIx9BTk1BS12EQd1CELt1"

/-- Characters that may begin an identifier. -/
def idStart : Table :=
  .unions [letter, letterNumber, otherIdStart] \ (patternSyntax ∪ patternBlank)

/-- Characters that may stand in an identifier. -/
def idContinue : Table :=
  .unions [idStart, nonspacingMark, spacingMark, decimalNumber, connectorPunctuation,
    otherIdContinue] \ (patternSyntax ∪ patternBlank)

/-- Characters whose compatibility forms may not stand in an identifier. -/
def unstableContinue : Table := .packed "Yq1MIw2CDSx6La2D8111111111111111"

/-- Characters whose compatibility forms may not begin an identifier. -/
def unstableStart : Table := .packed "Yq1CY81Dj1JH32CDSx6La2D8111111111111111Hz2"

/-! ## Further properties -/

/-- Signs of other categories that are used in mathematics. -/
def otherMath : Table := .packed <|
  "Cm1Yh321q222HS01r3b1w4o2e2Btd413245i1412a113561322213163455C35241212111522424i2211171162I24E" ++
  "o211o1h1Md2c955522235e11126o2Bl111t492Ji2vaL7mBr4w2CGCb11141Fv111CGExCd1Bz122122241c11171Bt1" ++
  "428171s141511371Jg2p1p1v1p1v1p1v1p1v1p182BeGAg41r1211211a14111161411111131211211111111112112" ++
  "4171414111a1h53151h"

/-- Characters of other categories that show nothing. -/
def otherIgnorable : Table := .packed "Xj1DVz2BSz2CJr1EQu1CEKj1C79BJAFz11uCoDkGoDW0"

/-- Characters that select a form of the one before. -/
def variationSelector : Table := .packed "GOz311CKX4gBJBAoGo"

/-- Signs in front of numbers that enclose them. -/
def prependedMark : Table := .packed "BQo6Fz1Bd1Ko2C81CUEa1f1"

/-- Characters that show nothing. -/
def ignorable : Table :=
  .unions [otherIgnorable, format, variationSelector] \
    .unions [prependedMark, .mk #[0xFFF9, 0xFFFC], .mk #[0x13430, 0x13440]]

/-- Characters that other characters attach to. -/
def graphemeBase : Table :=
  .all \ .unions [other, lineSeparator, paragraphSeparator, graphemeExtend]

/-- Characters that are mirrored in text from right to left. -/
def bidiMirrored : Table := .packed <|
  "B42i111s111t111B91f1DZ24CAd2CQc2a2Bi2e2Ex1Fc43631323414111149511i549211181w2451922j5295224o2" ++
  "g84k272BE5eC2124121354533eL7m261e817631451225411322a622cj14211121145263o2b24412224B7281B4511" ++
  "13553413511H41Ob43212e22aB78Lva28CEKl652Ei2i111s111t1111212CGY71Bl1Bl1Bl1Bl1"

/-- Diacritics. -/
def diacritic : Table := .packed <|
  "Cm111Bz1614122NzEf1856h24192H15Ft1Bjh1r111211Dq842Dq24233BvrCjbBmby2Di8B5agsBp1g134s1C21g1D2" ++
  "1g1D21g1Bb3Bo1g171Db1D21g1D21g1D12g1Dg1D31c611Cz1d5C32r1111142Bu312Bq1D4112B4245p711a2Tl3BAc" ++
  "2u1E4b91Jn3I41k821Bcf2bCw1f1B29Bi2Bm1b2Bu2Bs6Cap416123BeBrChcB1bMd113b3d3d3d2DO03It1O26Cx4Cn" ++
  "1BGD61c211s2Ca2eyCu3D12c1B11E71riBl4B01Cn1c1B01E53Bt4Bf1Cs593Dk2VR41VdgHi111Bb1B92Bv1V81BGv6" ++
  "1B619Rp341El2Pv6B21q5L33BybBd4Fc1B51C02Dc2Bq1C4193Cw2Ey2C82g1o735Ch312d2Cn131Df2Gz2Di1Da2D71" ++
  "Hh2H6241Ec1Cb1i1C91Lp1H6112C91Lt2n1FSsfMGx1CRc5Bn7Po2P6hC82RN241712IMhBa2nP43368827u4DZ6BqFe" ++
  "7Kf1Bp4Va2Ug7D1313"

/-- Emoji. -/
def emoji : Table := .packed <|
  "z1615aD3141IQd1c1G01m1Ci6f2K72c1Em1pb43Fj1Gf2a191Bm415912122214121122131328351115cb2211211i1" ++
  "22i6111232512242b25221521112k256142141212611211111613161a2f12141114311b2Bc391e1e1Kc2Mv3j2Bf1" ++
  "41BIi1c1Qp111ERVe1Fm1Eg2c2e12aC3q12n1k129l2Euy2D422132Cb231Hb1Brb61o7228c1242142d221829153c3" ++
  "8321114161316CeBcBy58234a3112312aGbc41HvBb1a1F5D4d3a5Bk7f2b69"

/-- Emoji that take a tone of skin. -/
def emojiBase : Table := .packed <|
  "KL11G31g4EVYf1Bo32123D922blj3143137111o1Fl241l142Eu335Cb1g391b1Pz12188619a23Bk1Bp21211h31dGd" ++
  "3B69"

/-- Emoji that show in colour. -/
def emojiPresentation : Table := .packed <|
  "JPm2Fp43121Oh2l2BecB71j1d182h2528151l1721141217142s1z1114311Bp3o1e1Xv2Bf141ETV21Fm1Fa12aC3q1" ++
  "1o1k12513l2Euxc91By1mcB745ch313Bz111F72Brd41oi1q2d1CeCdBcBy61332344b279Gbc41HvBb1a1F5D4d3a5B" ++
  "k7f2b69"

/-- Pictographs and places kept for them. -/
def extendedPictographic : Table := .packed <|
  "Ep141IQd1c1G01m1Ci6f2K72c1Cn1By1pb43Fj1Gf2a191Bm4161c1D6aDa2b1111613161a2f12141114311b5B9391" ++
  "e1e1Kc2Mv3j2Bf141BIi1c1Qp111ERVaH4d3v1Bo6c2e12aiBlrfa1k129149M25Iu8HeBcDkD8cCdB7c4Bk8a6B48uC" ++
  "acBb1a1M9H4BCe"

/-- Signs that lengthen or repeat. -/
def extender : Table := .packed <|
  "F31Ow2Ye1M91Ri1Dt1Ch1Uw1Dj1CNv1Bk1Qz1L21Bw1FIx1B75Cv2Cl3BEJy1BQe1BAq1m1Dt1D01l2XCr1CFc2BP71r" ++
  "141BHz1I51D82Nu3BI71WBl2BGs211BFA02BHd1Xo3"

/-- Signs that join consonants. -/
def graphemeLink : Table := .packed <|
  "CO51Dj1Dj1Dj1Dj1Dj1Dj1Dj1D12g1Dg1D31Dj1Fl1F02BWp2u1Ed1S51Gb1Ct2By2EUr1BHNa1B11E71Dy1D01Il1Gu" ++
  "1ZUp1BQu1B51e1Bl1Dd2Dv1D81F01Cq1Dk3D51Dj1H01Dj1Da1D81Hh1H72Eh1Cb1i1C91Lp1H82C91Lt2SAs1"

/-- Code points that are for no character. -/
def noncharacter : Table := .packed
  "CRKwwOm2CSAe2CSAe2CSAe2CSAe2CSAe2CSAe2CSAe2CSAe2CSAe2CSAe2CSAe2CSAe2CSAe2CSAe2CSAe2CSAe2"

/-- Letters that lose their dot under a mark. -/
def softDotted : Table := .packed <|
  "Cx2Fg1Ht1u1Bg1k1Iw1Cq111GW11Bf1d131Do1Ed1Lp1Fy2DBm1ELWl2Be2Be2Be2Be2Be2Be2Be2Be2Be2Be2Be2Be2" ++
  "CIm1Ih2q1"

/-- Signs that end a part of a text. -/
def terminalPunctuation : Table := .packed <|
  "x1a111b231X2181O91Bl1C01e113F01B7b11Gj2Bi618v1H92BJ82Es146In2Vx8Vh1Dg3Bz2Ed331B3422Iq2Ju4Ei2" ++
  "a213t3F75Bq2Zw1n293DM73Ii1d141a11232Lw2BFZv2Hh3Gb5Km2Ce2Cn1E73E33Dj1g2Gx1WM6122Bl314Ep1a111b" ++
  "231Bt121BE21Bc1BG61Fj1Im2E86Bw6Ch4BAg5B84F97D44Dj3Dl261g2Cg5D01Ia2D93c2Jy43fCx2Gx3Od111Gz2Cf" ++
  "242Li3B91Rx2C22BKr5TDl2Dp1Bt3a1Pd2I72VIu1IEn4"

/-- The properties by name. -/
def binaryProperties : List NamedTable := [
  ⟨["ahex", "asciihexdigit"], .packed "Bca76q6"⟩,
  ⟨["alpha", "alphabetic"], alphabetic⟩,
  ⟨["bidic", "bidicontrol"], .packed "BRg1HCh2q5Bj4"⟩,
  ⟨["bidim", "bidimirrored"], bidiMirrored⟩,
  ⟨["ci", "caseignorable"], caseIgnorable⟩,
  ⟨["cased"], cased⟩,
  ⟨["cwcf", "changeswhencasefolded"], changesCasefolded⟩,
  ⟨["cwcm", "changeswhencasemapped"], changesCasemapped⟩,
  ⟨["cwl", "changeswhenlowercased"], changesLowercased⟩,
  ⟨["cwt", "changeswhentitlecased"], changesTitlecased⟩,
  ⟨["cwu", "changeswhenuppercased"], changesUppercased⟩,
  ⟨["dash"], .packed "B91BM41Bf1DXd1BCl1CF56Bp1B31f1Ku1DHg121v241s1Me1j1D31CEFs2B11a1Ep1DY81Iu1"⟩,
  ⟨["di", "defaultignorablecodepoint"], ignorable⟩,
  ⟨["dep", "deprecated"], .packed "J51BKp1CM3111CG12CKd6Td2BLIQ61"⟩,
  ⟨["dia", "diacritic"], diacritic⟩,
  ⟨["emoji"], emoji⟩,
  ⟨["ecomp", "emojicomponent"], .packed "z1615aISb1Fx1CIMr1CORyqO35BOg4BGJZ0Co"⟩,
  ⟨["emod", "emojimodifier"], emojiModifier⟩,
  ⟨["ebase", "emojimodifierbase"], emojiBase⟩,
  ⟨["epres", "emojipresentation"], emojiPresentation⟩,
  ⟨["extpict", "extendedpictographic"], extendedPictographic⟩,
  ⟨["ext", "extender"], extender⟩,
  ⟨["grbase", "graphemebase"], graphemeBase⟩,
  ⟨["grext", "graphemeextend"], graphemeExtend⟩,
  ⟨["grlink", "graphemelink"], graphemeLink⟩,
  ⟨["hex", "hexdigit"], .packed "Bca76q6CRQxa76q6"⟩,
  ⟨["hyphen"], .packed "B91Dj1BIk1FBf1CF52DVp1Uj1CEEn1Ep1Cf1"⟩,
  ⟨["idsb", "idsbinaryoperator"], .packed "NCw22aNt1"⟩,
  ⟨["idst", "idstrinaryoperator"], .packed "NCy2"⟩,
  ⟨["idsu", "idsunaryoperator"], .packed "NDa2"⟩,
  ⟨["idcompatmathcontinue"], .packed "Ey251IRi13b1fKb141m1EPKy1p1v1p1v1p1v1p1v1p1"⟩,
  ⟨["idcompatmathstart"], .packed "JHu141m1EPKy1p1v1p1v1p1v1p1v1p1"⟩,
  ⟨["idc", "idcontinue"], idContinue⟩,
  ⟨["ids", "idstart"], idStart⟩,
  ⟨["ideo", "ideographic"], ideographic⟩,
  ⟨["joinc", "joincontrol"], .packed "ITw2"⟩,
  ⟨["loe", "logicalorderexception"], .packed "DXc5Df5CZs321BNQy22112"⟩,
  ⟨["lower", "lowercase"], lowercase⟩,
  ⟨["math"], mathSymbol ∪ otherMath⟩,
  ⟨["mcm", "modifiercombiningmark"], .packed "BT0221Dn16132Nd21331v1"⟩,
  ⟨["nchar", "noncharactercodepoint"], noncharacter⟩,
  ⟨["oalpha", "otheralphabetic"], otherAlphabetic⟩,
  ⟨["odi", "otherdefaultignorablecodepoint"], otherIgnorable⟩,
  ⟨["ogrext", "othergraphemeextend"], otherGraphemeExtend⟩,
  ⟨["oidc", "otheridcontinue"], otherIdContinue⟩,
  ⟨["oids", "otheridstart"], otherIdStart⟩,
  ⟨["olower", "otherlowercase"], otherLowercase⟩,
  ⟨["omath", "othermath"], otherMath⟩,
  ⟨["oupper", "otheruppercase"], otherUppercase⟩,
  ⟨["patsyn", "patternsyntax"], patternSyntax⟩,
  ⟨["patws", "patternwhitespace"], patternBlank⟩,
  ⟨["pcm", "prependedconcatenationmark"], prependedMark⟩,
  ⟨["qmark", "quotationmark"], .packed "y141Dn1f1IP08p2DVr1Mp4d3CEJt4F9141Ci2"⟩,
  ⟨["radical"], .packed "MSoq1ChcFy"⟩,
  ⟨["ri", "regionalindicator"], regionalIndicator⟩,
  ⟨["sterm", "sentenceterminal"], sentenceTerminal⟩,
  ⟨["sd", "softdotted"], softDotted⟩,
  ⟨["term", "terminalpunctuation"], terminalPunctuation⟩,
  ⟨["uideo", "unifiedideograph"],
    .packed "OFsHB4BsWL4YQe21112a1111223CTPyBTQowELe6G62GE2eHZlfRaEVeFH75EMg"⟩,
  ⟨["upper", "uppercase"], uppercase⟩,
  ⟨["vs", "variationselector"], variationSelector⟩,
  ⟨["space", "wspace", "whitespace"], .packed "95i1Cs1q1FZj1CPjbt251Bb1EH41"⟩,
  ⟨["xidc", "xidcontinue"], idContinue \ unstableContinue⟩,
  ⟨["xids", "xidstart"], idStart \ unstableStart⟩]

end ChatCommand.Text
