import ChatCommand.Text.Table

/-!
# General categories

Every character has one general category. The categories are tables, as are the groups of them that
go by a name of their own.
-/

namespace ChatCommand.Text

/-- Capital letters. -/
def uppercaseLetter : Table := .packed <|
  "BtqCtn17x11111111111111111111111111111111111111111111111111111112111111111111111211111111111" ++
  "11111111111111111111111111111111111211113211121324121332121111121121121311123171212121111111" ++
  "11111111211111111111111111212113111111111111111111111111111111111111111111111111111111111172" ++
  "12211411111111I11113181611311121h19z1233111111111111111111111115121122BfBc111111111111111111" ++
  "11111111111111191111111111111111111111111111111111111111111111111111112111111111111211111111" ++
  "1111111111111111111111111111111111111111111111111111111111111111111111111111111111111112B2DC" ++
  "9B21151U2CeCIz16B723Iw1111111111111111111111111111111111111111111111111111111111111111111111" ++
  "11111111111111111111111111111111111111111111111111111111111111111111111111111119111111111111" ++
  "11111111111111111111111111111111111111111111111111111111111111111111111111111111111119886a88" ++
  "886b111111188C04c4c4c5b4Ha141332321356111111424a251Bp1CWkBcBc1132111111411218311111111111111" ++
  "111111111111111111111111111111111111111111111111111111111111111111111111111111111111811141BH" ++
  "El111111111111111111111111111111111111111111111j111111111111111111111111111Dr111111111111131" ++
  "111111111111111111111111111111111111111111111111111111111111a1111211111111411121113111111111" ++
  "11111111111515111111111111111411123151111111o1XVvqBHxB4DsB0Ecb1f1712BX6BfEdmDBuwXK0wBBUoqqqq" ++
  "qq11221222418qqq2142817r214151137rqqqqqqqqqqqupxpxpxpxpx1ESdy"

/-- Small letters. -/
def lowercaseLetter : Table := .packed <|
  "CpqBm1B5o18111111111111111111111111111111111111111111111111111111121111111111111112111111111" ++
  "11111111111111111111111111111111111112111132111213241213321211111211211213111222361212111111" ++
  "11111111112111111111111111112211131111111111111111111111111111111111111111111111111111111111" ++
  "7212211411111111Bx1rFd1113133i1rz1233111111111111111111111115112122BfBc111111111111111111111" ++
  "11111111111119111111111111111111111111111111111111111111111111111112111111111111211111111111" ++
  "1111111111111111111111111111111111111111111111111111111111111111111111111111111111111BcB5DC7" ++
  "B723V46CIi911D9B8Brd1yCu11111111111111111111111111111111111111111111111111111111111111111111" ++
  "11111111111111111111111111111111111111111111111111111111111111111111111111111111911111111111" ++
  "11111111111111111111111111111111111111111111111111111111111111111111111111111111111111986a88" ++
  "886a8888e2888888512613312842288a312Hm13231r14141228441Bh1CXvBc113211111141121651111111111111" ++
  "11111111111111111111111111111111111111111111111111111111111111111111111111111111111112711141" ++
  "cB21151BHCz111111111111111111111111111111111111111111111j111111111111111111111111111Dr111111" ++
  "11111131111111111111111111111111111111111111111111111111111111111111118111121111111114111211" ++
  "311111111111111111111515111111111111111411121311111111111q131WtB7597C8VRk7c5BDlqBI5B4DsB0Ebb" ++
  "1f1712BXvBfDhmDBuwXK0wBBUiqq71iqqq411171bqqqqqqqqqqqqqqqqqssp16qp16qp16qp16qp1611BZ8a1k66CSv" ++
  "y"

/-- Digraphs with a capital first part. -/
def titlecaseLetter : Table := .packed "Ml12121B21ICd88888c1f1Bb1"

/-- Letters that modify others. -/
def modifierLetter : Table := .packed <|
  "T4i4ce57111Dp151Na1Ge1Ek2Hh241v19131Eg1En1BIc1Dj1Pp1BWq1Cz1Qz1Mw6EuBrd1yB1T51d1gdDGf2Gp1Fb1N" ++
  "11B7551Cp2Cl3BEJy1BIq6Hi1D61s2Dd9C81n1Cx332N11m1Dt1D01l2Cv491WZi1B92CE061B619BNn1w1ZR44O43B4" ++
  "2PadBs211RNg41712NEpBqFl7BA51BF31"

/-- Letters without a case. -/
def otherLetter : Table := .packed <|
  "Eq1f1H4144Fs1Wzr44B9w1az21Cr11o2a321g11utChb1oxlmB6p7b5o16hB5BnBi31i17agf48222m17113431g1d21" ++
  "3e2a186422m17121212v411j3g9131m17121531i1f2n1b8222m17121531u213f1h116331432111232333cm1Bg813" ++
  "1n1g31q32122u148131n1a1531v212f2h9131B521g15383o65i3o191127BmBc12c6Bn211151o111a129125n4w1Br" ++
  "81B0r5D7B7k1g6443132734dc1D5J5142711142B5142x142711142f1Bl142BvB1gD5R82h1q5C3687idjeied13fBg" ++
  "B41Bvz1Bh752y115ByavBdu25bB84qBin9BhEwBbh8Biud2aB8qB0B53auD54161231BE24DH3Bkon97171717171717" ++
  "17Pb1Bh14Ce811Ci415B71CmhwBcgO8HB4BsWLp1BFrBvB48Hg4ga2Bu1BdByEp1Cv13713141ntBgeBeBq63112bsan" ++
  "pt7BbB9529a51B5n318kg16313Be1132252111o23b71e626269717E1ztLYccn4BdJAsK62CyBv11a1d151112121D0" ++
  "xK3iBs2BiB4cD851DrCxa1B92v36262623zc1q1j121f2eyDfKtt3BdBbwdk186B2au2B048DkC6CqB48BgCkBgcIn9m" ++
  "a8E86211B812312nan9vBtj12amaqByBk62Bs1f4131tB6t3tz81srBiamajdiD2C1F3B0B2411IgB662g3Bnta18mB6" ++
  "iBalrncBhBl221dB9wpqB0t1218z31cBce4l111zi1pj2Br711141f1a7BbB28222m17121531i1c5ua11211B211p11" ++
  "1B8Bhi4k3uBck211F4BbB54B0Bck1BnB7d1BzrB17F5B8Fv82128121of111Cm82B3g111s1aB471l1bBaj1iC1Fjxv9" ++
  "1B1h1BduD47121B2l1p6121we1J3jf11d1yDg1C7ZmGeFgCV8CpfBDsh6pEGz5Q7HI1uBWyPt7vhC7huiBcBfl5jM3B4" ++
  "L9C351EvGOg8BIeB5aJOnI3f1t321e48L0CM4Cz5d397aJKw1NxB9x1IxuiB8NgrGdu21Nr714121f1FhBL741r12112" ++
  "11a141111614111111312112111111111121124171414111a1h53151hESsBTQowELe6G62GE2eHZlfRaCQiP2BPuFH" ++
  "75EMg"

/-- Marks without a width. -/
def nonspacingMark : Table := .packed <|
  "VcD4Hn5HdB911121211C0bBclg1Ct7262214z1urCjbBm991o4191315B73Bn9B6o1wBj111484137a2t1Bm14481k2q" ++
  "122Bl142422331u231b2Bl1451241k2m611Bm121148172b2u1Bp1c1Be131Bj113531472b2t1Bm1216152k2s2Bl24" ++
  "481k2t1C017311Ci127c8Cq129b7C12r11111Bje15125b1B091Cu4161222p243g4d12261f1Tj3BAa3t2u2u2Bs217" ++
  "812b91B9311D92y1Da3429163G3221Bm1171111286a21Bce1gBd4Bc1151151B49c2w42213Bk1123113Bm822E831d" ++
  "17416132FiBsU0d413cDHa3Dx1CowPe4Cz2BGFw14aw2C82Hk13141p251E72qid1B28pbBa3Bc12422B31Bv62222c1" ++
  "81Bb1Bf113225211B6281Gm12141VR41UhgggBB11Ga1E55BUe31254B4341El2Px4Bt5It2C74BybBd4Df1BifB5122" ++
  "a3Bd42271Bp3B0518Bq1c2Bg9a421Cn321126121Ed138l2Bl231B1735By6d11111e2Cd82311n1Cc6114212Gm4621" ++
  "2r2Cd82112Cy1112611Ct1112415H7912H421141E042241waB4624819623Bad12La71611Cam271212De631121711" ++
  "C023111Jn2b2Bg55111n1FSl16fMGgc33CRc5Bn7BD41Br4C91UZk2FApBa2nP43h827u4E43CCzBj4Be81e1m51fBLs" ++
  "71h271215Cs1Eg7Kf1Bp4O44H22Ug7D17BGORxGo"

/-- Marks with a width. -/
def spacingMark : Table := .packed <|
  "CM31Bj1238412Be2Bm36222a1B71Bm3Bu1Bm38112Bh2Bm1116222a1Cu2123313a1B53Bp4Bp2Bm115221292s1e2Bm" ++
  "35313a1B62C3368i2J62Br1Er2416122p2a327l22621a3BU01u1Dl17812Jm4234216G82Bm111911286E11Bc15115" ++
  "12Bp1u14221Bo1231132Bc882Er1l1FGm2BGUz221Cg2BegDy2Bb1Bc24223D2222o1B9111D112251Gl2121211BBJn" ++
  "111Dj1B9342D71o2Bn1Bc392d1Cl33211Eq3v2Bm214222391a2Cc37121141211Ct38231Cy3611421Gl36421D5382" ++
  "11D111261Cv11241H9391Gv612412111Dy38441Cc1t2Bq1Lb1e1Cy17121Fx54211Jq2c1Bc28211SAo3DWkBjCw2BA" ++
  "Qz266"

/-- Marks that enclose. -/
def enclosingMark : Table := .packed "BG82GBw1BRi413BKNn3"

/-- Decimal digits. -/
def decimalNumber : Table := .packed <|
  "BcaBRqaDqaFiaLgaDaaDaaDaaDaaDaaDaaDaaDaaDaaCoaDaaByaHqaByaBZqaB2aIcaDkaEma6aF2aCeaDqa6aBLRqa" ++
  "SuaB2aFiamaCeaLaaWSuaBNaaCIma6aW4aDkaBoaE0aHqaJiaDaaKeaCua6kC4aLqaCuaSeaCeaGuaByaLqaSA6aCN2a" ++
  "CeaDqaOuaBACuaCZ0BeCNsaLqaNyaGvaXpaFC6a"

/-- Letters that stand for numbers. -/
def letterNumber : Table := .packed "GH23CW7z24DZ21p9e3BGLvaYS8BhMs181Dq5IUqD3"

/-- Numbers of other kinds. -/
def otherNumber : Table := .packed <|
  "Ey25123CNh6Kg6Dc3Dp7G17h9M1aBDxkBFnaNc1BUt1366aFigB51U6BoC6mRiuBMh1BGk4Duau81fwaB3fBGD46YHlB" ++
  "9Bt4h2JhrB04BL08p7B39C35m6Eg22g2BaBs9Bg2u3C35Cw8o8B57J66JsvEeaB64D47DqkKjkBLh2Ly9Y7jXnlUR27W" ++
  "6nBBK9kckD0pFVi9ZtBn1314C4B91fBAqd"

/-- Signs that connect. -/
def connectorPunctuation : Table := .packed "Cn1ISn2j1CIRq2o3Gn1"

/-- Dashes. -/
def dashPunctuation : Table := .packed
  "B91BM41Bf1DXd1BCl1CF56DVl121v241s1Me1j1D31CEFs2B11a1Ep1DY81Iu1"

/-- Opening brackets. -/
def openPunctuation : Table := .packed <|
  "B41Be1v1EAu111CAe1CPi131B21Bj1f1Rm111u1BE61111111111111C81w111111111L8111111111111111111111B" ++
  "s111x1BDh1111111p1i1111111Lw1111111113111111121CECp1Fz1t11111111111111131h11111Eq1Be1v13121"

/-- Closing brackets. -/
def closePunctuation : Table := .packed <|
  "B51Bf1v1EAt111CAe1CQp1Bj1f1Rm111u1BE61111111111111C81w111111111L8111111111111111111111Bs111x" ++
  "1BDh1111111B81111111Lw1111111113111111122CECm1G11t11111111111111131h11111Eq1Bf1v12121"

/-- Opening quotation marks. -/
def initialPunctuation : Table := .packed "Er1IPg12221p1DU01114121f131"

/-- Closing quotation marks. -/
def finalPunctuation : Table := .packed "F71IP1131s1DU01114121f131"

/-- Punctuation of other kinds. -/
def otherPunctuation : Table := .packed <|
  "x313211112a232r1Bw151e271Ti181My6B51Bi12121B82k212d113C24Cu1B7eGh3Bifv1H92a1Dw1Dc1Dd1Ku1c1K7" ++
  "1Ci1a2Eof11D41C2542D36Er1R09Vh1Dg3Bz2Ed313B1614Ip2G02Dk716Eg2a7s3Dg4Bn5Bq2Bs8b1X62888924233b" ++
  "111aDLm412D41Dz2432129121122a51a24111d23Lw3Bl1F91BFSy2Hh3Cr1a1D76Kk4Ce2B4311Bd2Bb1Cpdg2Dg4Di" ++
  "2g2Gx1WM4721m1k2243314736112E5313211112a232r1B0122Le3Sk1Bc1Li1Un1Fj1v1Hk9B21D47Bu7Ch4BAg5B84" ++
  "F97D1214Di4Bc2C7441d113Cg6Cz1Ia212D65a211Cw1GynCx3sdC41Dm3H01Hc3Eb1Ck8Cb315ClaFz1Cn5B62Rx2C2" ++
  "dEv1BFk5DDo2PZv2Dp1Bt581Pc3I74J31UZo1IEn5DDf1Xy2"

/-- Mathematical signs. -/
def mathSymbol : Table := .packed <|
  "B71g3Bp111B9141B11v1Va1On3HEj1d1B33d3Dv1B3561Bw55241212171v22111vHgw2Ci1upB46N1191Bi8D31Jc52" ++
  "vagH4DnmBr4w2H6Bcl26CEW41Ww113Ek1g3Bp111Dn164DSx2CDAp1p1v1p1v1p1v1p1v1p1GIs2"

/-- Signs of currencies. -/
def currencySymbol : Table := .packed
  "B01Dh4BIx1Df1Nu2Nu271Gt1Hb1Q51CQb1CKcxBLBb1XLv1D01Ea1G3232ITa4CBJi1CQw1"

/-- Signs that modify others. -/
def modifierSymbol : Table := .packed
  "Cm111Bz1614131Oh4ce57111hD91e2BJm1GJ0113b3d3d3d2EO42BGJvn92Cv2BB41e2VYuhYr111Ei1COTr5"

/-- Signs of other kinds. -/
def otherSymbol : Table := .packed <|
  "Em1214111BB51He2Dj2Fq1a1j2Gv1Ob1Kd1Dm611Do1Fr1B51Kv3f11326k11111Dp8161254Fh2UwaU31U21EdyJta9" ++
  "9BN721412a1126611111141b2e11211Bm295241212171v22111vHg84k272C91upB46C0mbC9C6mF3191Bi8D31GwB8" ++
  "B8BsH4O8Bcl26B32w1CxGd6Jx2Baq1ChcFyqg41d2c1l262Jc24awB291gvbu81fwaB3fIwHB4BsXRkBjY14a211Px3W" ++
  "QmgDj1B93Ng13142d2Ip9Blh231d31BbB9BU22Qf1DKm1CJ184hUPe451WGe1EFfGogM4EcD8BoGuaB32Bo53m27u4Bp" ++
  "lBu31F6CfBH5O8Bj4Be81e12BW81DCs1Dl1U1B84Cscf2f1f1B1nEhBktdB84972e6EaGz5U84h3d3Db4Cn6c41fc4Bk" ++
  "8a6B48u2c42BqJgce2d3a5Bk7f2b697E31Ck"

/-- Spaces. -/
def spaceSeparator : Table := .packed "w1Dj1FZj1CPjbB01Bb1EH41"

/-- The separator of lines. -/
def lineSeparator : Table := .packed "IUo1"

/-- The separator of paragraphs. -/
def paragraphSeparator : Table := .packed "IUp1"

/-- Control characters. -/
def control : Table := .packed "0wCnx"

/-- Characters that control the format. -/
def format : Table := .packed
  "Et1BLu6m1Fc1Bd1Ko2C81EDv1CEs5q5Bd51aCIWn1Gx3EP51f1JRmgBLHs4FRz8BGUY61uCo"

/-- Characters for private use. -/
def privateUse : Table := .packed "CJGwGVsBLUE0CSAe2CSAe"

/-! ## Groups of categories -/

/-- Letters with a case. -/
def casedLetter : Table := .unions [uppercaseLetter, lowercaseLetter, titlecaseLetter]

/-- Letters. -/
def letter : Table := casedLetter ∪ modifierLetter ∪ otherLetter

/-- Marks. -/
def mark : Table := .unions [nonspacingMark, spacingMark, enclosingMark]

/-- Numbers. -/
def number : Table := .unions [decimalNumber, letterNumber, otherNumber]

/-- Punctuation. -/
def punctuation : Table :=
  .unions [connectorPunctuation, dashPunctuation, openPunctuation, closePunctuation,
    initialPunctuation, finalPunctuation, otherPunctuation]

/-- Signs. -/
def symbol : Table := .unions [mathSymbol, currencySymbol, modifierSymbol, otherSymbol]

/-- Separators. -/
def separator : Table := .unions [spaceSeparator, lineSeparator, paragraphSeparator]

/-- Code points without a character. -/
def unassigned : Table :=
  .all \ .unions [letter, mark, number, punctuation, symbol, separator, control, format, privateUse]

/-- Characters of no other group. -/
def other : Table := .unions [control, format, privateUse, unassigned]

/-- The categories and their groups by name. -/
def categories : List NamedTable := [
  ⟨["lu", "uppercaseletter"], uppercaseLetter⟩,
  ⟨["ll", "lowercaseletter"], lowercaseLetter⟩,
  ⟨["lt", "titlecaseletter"], titlecaseLetter⟩,
  ⟨["lm", "modifierletter"], modifierLetter⟩,
  ⟨["lo", "otherletter"], otherLetter⟩,
  ⟨["mn", "nonspacingmark"], nonspacingMark⟩,
  ⟨["mc", "spacingmark"], spacingMark⟩,
  ⟨["me", "enclosingmark"], enclosingMark⟩,
  ⟨["nd", "digit", "decimalnumber"], decimalNumber⟩,
  ⟨["nl", "letternumber"], letterNumber⟩,
  ⟨["no", "othernumber"], otherNumber⟩,
  ⟨["pc", "connectorpunctuation"], connectorPunctuation⟩,
  ⟨["pd", "dashpunctuation"], dashPunctuation⟩,
  ⟨["ps", "openpunctuation"], openPunctuation⟩,
  ⟨["pe", "closepunctuation"], closePunctuation⟩,
  ⟨["pi", "initialpunctuation"], initialPunctuation⟩,
  ⟨["pf", "finalpunctuation"], finalPunctuation⟩,
  ⟨["po", "otherpunctuation"], otherPunctuation⟩,
  ⟨["sm", "mathsymbol"], mathSymbol⟩,
  ⟨["sc", "currencysymbol"], currencySymbol⟩,
  ⟨["sk", "modifiersymbol"], modifierSymbol⟩,
  ⟨["so", "othersymbol"], otherSymbol⟩,
  ⟨["zs", "spaceseparator"], spaceSeparator⟩,
  ⟨["zl", "lineseparator"], lineSeparator⟩,
  ⟨["zp", "paragraphseparator"], paragraphSeparator⟩,
  ⟨["cc", "cntrl", "control"], control⟩,
  ⟨["cf", "format"], format⟩,
  ⟨["co", "privateuse"], privateUse⟩,
  ⟨["lc", "casedletter"], casedLetter⟩,
  ⟨["l", "letter"], letter⟩,
  ⟨["m", "mark", "combiningmark"], mark⟩,
  ⟨["n", "number"], number⟩,
  ⟨["p", "punct", "punctuation"], punctuation⟩,
  ⟨["s", "symbol"], symbol⟩,
  ⟨["z", "separator"], separator⟩,
  ⟨["cn", "unassigned"], unassigned⟩,
  ⟨["c", "other"], other⟩]

end ChatCommand.Text
