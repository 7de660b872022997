import ChatCommand.Text.Category

/-!
# Printable characters

`isPrintable` holds of the characters that a quoted text shows as they are, `isExtender` of the
marks that attach to the character in front of them.
-/

namespace ChatCommand.Text

/-- Characters of a visible category. -/
def visible : Table := .unions [letter, mark, number, punctuation, symbol]

/-- Characters that attach to the one before although they are no such marks. -/
def otherGraphemeExtend : Table := .packed <|
  "CRa1o1Jy1o1Cu1o1Gg111421292Cv1o1Db1f1CNh1u1BCg1511152Ct1Bz2BD41EKp2BHDf1D01XMl2EYw1D81Hc1e19" ++
  "1Co191211351G81c1Gp1Ha1Rl1c1BQr1WBq2BAQz266BGUZ9Co"

/-- Characters that attach to the one before. -/
def graphemeExtend : Table := .unions [nonspacingMark, enclosingMark, otherGraphemeExtend]

/-- A character with a visible form, or the space. -/
def isPrintable (c : Char) : Bool :=
  if c.toNat < 128 then ' ' ≤ c && c ≤ '~' else visible.contains c

/-- A character that attaches to the one before it. -/
def isExtender (c : Char) : Bool :=
  128 ≤ c.toNat && graphemeExtend.contains c

end ChatCommand.Text
