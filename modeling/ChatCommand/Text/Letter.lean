import ChatCommand.Text.Category

/-!
# Letters and numerals

`isLetter` is the alphabetic property, `isNumeral` the union of the number categories. Names of
capture groups are made of them.
-/

namespace ChatCommand.Text

/-- Signs and marks that count as small letters. -/
def otherLowercase : Table := .packed
  "Eq1f1Nx972u5Co1Bg1DS11DInBrd1yB1T51d1gdFvgXkqCBu2BHKe2Fu1Dl332Y2491ZEu1231B619CHF9Bq"

/-- Characters in lower case. -/
def lowercase : Table := lowercaseLetter ∪ otherLowercase

/-- Signs that count as capital letters. -/
def otherUppercase : Table := .packed "JDcgXaqEVXsq6q6q"

/-- Characters in upper case. -/
def uppercase : Table := uppercaseLetter ∪ otherUppercase

/-- Characters that have a case. -/
def cased : Table := .unions [lowercase, uppercase, titlecaseLetter]

/-- Signs and marks that count as letters. -/
def otherAlphabetic : Table := .packed <|
  "X91tdQ0e11121211C0bBcd17g1Ct7442241z1ugCubCt2391314Cy1Boc376kBi22f1253a2t3Bm72222a1a2t3Bm542" ++
  "2241u231b3Bm81312l2m343Bm7222292a2u1Bn53313a1B45Bl7131382b2t3Bm7131382b2f1c4Bm71313a1a2t3C36" ++
  "1118i2Bp127i1Cr12612g1Ejj9b1B0D2c1124n443132734dc11a4BTw2u2u2u2BujF82y1Dac49G65Bla2kC22b3Bd5" ++
  "BcfBo3u922BlbBejLgyBW1BgCLqwBGYk8y2Ju181n5Cg2Beg11Bl1B25scB94BccB11Bvec182B93Be1132251B8551G" ++
  "l8VR71CHb5BUe31254Vw4Bt1Ix2C71H73BheB92b3B9991Bp3B0ci2Bl3Bcde2Ck9216121Edan4Bm72222a1a2Cc911" ++
  "211412Cvd13CyiGl727t2Caf11CybCveH5dGv612223111Dy72641saB6514ibBaeLb817Cbm1eDe63112131131Bu51" ++
  "214Jo49211Bc733SAdhDWg11Bj74Cl2UZ81JRl71h271215Cs1CJz1CE8q6q6q"

/-- Alphabetic characters. -/
def alphabetic : Table :=
  .unions [cased, modifierLetter, otherLetter, letterNumber, otherAlphabetic]

/-- Ideographs. -/
def ideographic : Table := .packed
  "NDi2p9e3BAtHB4BsWL4YIwK62CyBGAa1rGOg8BIeB5aJYvL0VBoBTQowELe6G62GE2eHZlfRaCQiP2BPuFH75EMg"

/-- An alphabetic character. -/
def isLetter (c : Char) : Bool :=
  if c.toNat < 128 then c.isAlpha else alphabetic.contains c

/-- A numeric character. -/
def isNumeral (c : Char) : Bool :=
  if c.toNat < 128 then c.isDigit else number.contains c

end ChatCommand.Text
