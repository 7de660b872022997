import ChatCommand.Text.Letter
import ChatCommand.Text.Printable

/-!
# Text boundaries

The classes of characters that decide where the characters that a reader sees, the words and the
sentences of a text end.
-/

namespace ChatCommand.Text

/-- The tones of skin. -/
def emojiModifier : Table := .packed "FGTf5"

/-- The letters that pairs of which write a flag. -/
def regionalIndicator : Table := .packed "FGEmq"

/-! ## Visible characters -/

/-- Syllables of Hangul without a final consonant. -/
def openSyllable : Table where
  boundaries := ((List.range 399).flatMap fun i => [0xAC00 + 28 * i, 0xAC01 + 28 * i]).toArray

/-- Marks with a width that are part of the character before them. -/
def attachedMark : Table :=
  (spacingMark ∪ .mk #[0xE33, 0xE34, 0xEB3, 0xEB4]) \
    (graphemeExtend ∪ .packed "EKz2b1B5327l13621a3CRg112BNKm111BDSi2")

/-- The classes for boundaries between visible characters. -/
def graphemeBreaks : List NamedTable := [
  ⟨["cr"], .mk #[0xD, 0xE]⟩,
  ⟨["lf"], .mk #[0xA, 0xB]⟩,
  ⟨["zwj"], .mk #[0x200D, 0x200E]⟩,
  ⟨["cn", "control"], .packed "0a121iCnxd1BMm1EXl1CEs122o7BdgCIWn1GocOH8gBLHs4FRz8BGUY5wCoDkGoDW0"⟩,
  ⟨["ex", "extend"], graphemeExtend ∪ emojiModifier⟩,
  ⟨["l"], .packed "EQwCoBPOwt"⟩,
  ⟨["v"], .packed "ETkC0CCE8nBOXw134"⟩,
  ⟨["t"], .packed "EVkCgCCCjBd"⟩,
  ⟨["lv"], openSyllable⟩,
  ⟨["lvt"], .mk #[0xAC00, 0xD7A4] \ openSyllable⟩,
  ⟨["pp", "prepend"], .packed "BQo6Fz1Bd1Ko2C81BFf1CSYu1f1Gs2Ol1BMl111Gw1C16Tg1Mb1"⟩,
  ⟨["sm", "spacingmark"], attachedMark⟩,
  ⟨["ri", "regionalindicator"], regionalIndicator⟩]

/-! ## Words -/

/-- Letters of Hebrew. -/
def hebrewLetter : Table := .packed "BPcr44CPBe11a1d151112121a"

/-- Letters of Katakana and signs that are used with them. -/
def kana : Table := .packed "NEp5Ct23Cj14GogFsBb1CgCDV2BkBWFu4171211Hz3Be1e4"

/-- Signs that may stand between letters. -/
def midLetter : Table := .packed "Bm1Dg1Tz1N31E41HEa1CIS31Bt1Fg1"

/-- Signs that may stand between letters or digits. -/
def midNumLet : Table := .packed "Ba1ISx2a1CITx1F0161"

/-- Characters that attach to a word. -/
def wordExtend : Table :=
  .unions [graphemeExtend, spacingMark, emojiModifier] \ .mk #[0x200D, 0x200E]

/-- Letters of scripts that put no blanks between words. -/
def unspacedLetter : Table := .packed <|
  "DVlBc12c7Bm211151o111a12912511l4I0B7k1g6443132734dc1BXdBgz141Kbu25bB84qCeBhCa1FXlCe63BHE851a" ++
  "a5Cpn313Be1132252111o3BDOyrB17BPU2Hzi1t3"

/-- Signs that are read as part of a word. -/
def letterSign : Table := .packed "Tm4c66257111hQq311B71Cw1Hv1BRTkf92Cv2BB41"

/-- Letters that make up words. -/
def wordLetter : Table :=
  (alphabetic ∪ letterSign) \ .unions [wordExtend, ideographic, kana, hebrewLetter, unspacedLetter]

/-- Signs that are read as part of a number. -/
def numericSign : Table := .packed "BQo6Ct1D51M22C81EQn1CPNm1f1"

/-- The classes for boundaries between words. -/
def wordBreaks : List NamedTable := [
  ⟨["cr"], .mk #[0xD, 0xE]⟩,
  ⟨["lf"], .mk #[0xA, 0xB]⟩,
  ⟨["zwj"], .mk #[0x200D, 0x200E]⟩,
  ⟨["nl", "newline"], .packed "b2Dc1IQy2"⟩,
  ⟨["dq", "doublequote"], .mk #[0x22, 0x23]⟩,
  ⟨["sq", "singlequote"], .mk #[0x27, 0x28]⟩,
  ⟨["wsegspace"], .packed "w1GD31CPj713Cc1EH41"⟩,
  ⟨["le", "aletter"], wordLetter⟩,
  ⟨["hl", "hebrewletter"], hebrewLetter⟩,
  ⟨["ka", "katakana"], kana⟩,
  ⟨["nu", "numeric"], decimalNumber ∪ numericSign⟩,
  ⟨["ex", "extendnumlet"], connectorPunctuation ∪ .mk #[0x202F, 0x2030]⟩,
  ⟨["ml", "midletter"], midLetter⟩,
  ⟨["mn", "midnum"], .packed "B81e1X61Oi1Dm2Cm1Kz1GQr1CISz131F31e1"⟩,
  ⟨["mb", "midnumlet"], midNumLet⟩,
  ⟨["extend"], wordExtend⟩,
  ⟨["fo", "format"], .packed "Et1BMm1EXl1CEv2q5Bd51aCIWn1Gx3OH8gBLHs4FRz8BGUY61"⟩,
  ⟨["ri", "regionalindicator"], regionalIndicator⟩]

/-! ## Sentences -/

/-- Signs that end a sentence. -/
def sentenceTerminal : Table := .packed <|
  "x1c1g1BLl1E33F01B73Gu1Bp11132I52BX02Vy142Vh1Fi2Ed2B9151Iq2Ju4Ei2a222t3F72Bt2Zw1n293DM73Ii1d1" ++
  "m2Lx1BFZw1Hi2Gb131Km2Ce2Cn1E82E33E02Gx1WM6122Bn132Ep1c1g1Bt1CZw2BJh5B84F92D94Dj3Dl261g2Cg212" ++
  "D01Ia2D92Kd25fCx2Gx3Od111Gz2Cf2Lo2T82C22UOh2Dp1Bt2b1Pd2I81VIu1IEo1"

/-- Signs that may also stand in a number or behind a short form. -/
def fullStop : Table := .packed "Ba1IT91CITx1F71"

/-- Georgian letters that have capitals but begin no sentence with them. -/
def georgianLetter : Table := .mk #[0x10D0, 0x10FB, 0x10FD, 0x1100]

/-- The capitals of `georgianLetter`. -/
def georgianCapital : Table := .mk #[0x1C90, 0x1CBB, 0x1CBD, 0x1CC0]

/-- Small letters at which a sentence goes on. -/
def sentenceLower : Table := lowercase \ (wordExtend ∪ georgianLetter)

/-- Capital letters at which a sentence may begin. -/
def sentenceUpper : Table := (uppercase ∪ titlecaseLetter) \ georgianCapital

/-- Characters that attach to a sentence. -/
def sentenceExtend : Table := .unions [graphemeExtend, spacingMark, .mk #[0x200D, 0x200E]]

/-- Brackets and quotation marks that may close a sentence. -/
def sentenceClose : Table := .packed <|
  "y143Bd111t111B91f1DZ24CAd2CPf8p2a2Bi2e2Rl4t2BDs67eC72vaL7mBr4w2BCiee22ao1i8Lva2813CECm2Fz2sg" ++
  "22g6Ep2Bd111t1111212CPOy3"

/-- The classes for boundaries between sentences. -/
def sentenceBreaks : List NamedTable := [
  ⟨["cr"], .mk #[0xD, 0xE]⟩,
  ⟨["lf"], .mk #[0xA, 0xB]⟩,
  ⟨["se", "sep"], .packed "Dp1IQy2"⟩,
  ⟨["sp"], .packed "9112j1Dj1FZj1CPjbB01Bb1EH41"⟩,
  ⟨["lo", "lower"], sentenceLower⟩,
  ⟨["up", "upper"], sentenceUpper⟩,
  ⟨["le", "oletter"], (alphabetic ∪ .mk #[0x5F3, 0x5F4]) \
    .unions [sentenceLower, sentenceUpper, sentenceExtend]⟩,
  ⟨["nu", "numeric"], .unions [decimalNumber, numericSign, .mk #[0x66C, 0x66D]]⟩,
  ⟨["at", "aterm"], fullStop⟩,
  ⟨["st", "sterm"], sentenceTerminal \ fullStop⟩,
  ⟨["sc", "scontinue"], .packed "B82c2X61Na1Eu2Nm1EK1151CF62EJ81CEJa212s2t22221a1Eo2c2C01"⟩,
  ⟨["cl", "close"], sentenceClose⟩,
  ⟨["ex", "extend"], sentenceExtend⟩,
  ⟨["fo", "format"], .packed "Et1BMm1Gq1EQu1CEs122q5Bd51aCIWn1Gx3OH8gBLHs4FRz8BGUY61"⟩]

end ChatCommand.Text
