import OpticalLink.Text.Ranges

/-!
# Letters that join

In some scripts certain letters are written as one sign when they meet. These are
the letters on either side of such a joint.
-/

namespace OpticalLink.Text

/-- Whether a character is an Arabic lam. -/
def isLam (character : Char) : Bool :=
  inRanges [(0x644, 0x644), (0x6B5, 0x6B8), (0x76A, 0x76A), (0x8A6, 0x8A6), (0x8C7, 0x8C7)]
    character

/-- Whether a character is an Arabic alef. -/
def isAlef (character : Char) : Bool :=
  inRanges [(0x622, 0x623), (0x625, 0x625), (0x627, 0x627), (0x671, 0x673), (0x675, 0x675),
    (0x773, 0x774), (0x870, 0x882)] character

/-- The Hebrew letter alef. -/
def hebrewAlef : Char := '\u05D0'

/-- The Hebrew letter lamed. -/
def lamed : Char := '\u05DC'

/-- The Buginese letter a. -/
def bugineseA : Char := '\u1A15'

/-- The Buginese vowel sign i. -/
def bugineseVowelI : Char := '\u1A17'

/-- The Buginese letter ya. -/
def bugineseYa : Char := '\u1A10'

/-- Whether a character is a Khmer letter that can be written below another. -/
def isKhmerSubscript (character : Char) : Bool :=
  inRanges [(0x1780, 0x1782), (0x1784, 0x1787), (0x1789, 0x178C), (0x178E, 0x1793),
    (0x1795, 0x1798), (0x179B, 0x179D), (0x17A0, 0x17A0), (0x17A2, 0x17A2), (0x17A7, 0x17A7),
    (0x17AB, 0x17AC), (0x17AF, 0x17AF)] character

/-- The Khmer sign that puts the letter behind it below the one before. -/
def khmerSubscriptSign : Char := '\u17D2'

/-- Whether a character is a Tifinagh consonant. -/
def isTifinagh (character : Char) : Bool :=
  inRanges [(0x2D31, 0x2D65), (0x2D6F, 0x2D6F)] character

/-- The sign that joins two Tifinagh consonants. -/
def tifinaghJoiner : Char := '\u2D7F'

/-- Whether a character is the first of two Lisu tone letters. -/
def isFirstLisuTone : Char → Bool := inRange 0xA4F8 0xA4FB

/-- Whether a character is the second of two Lisu tone letters. -/
def isSecondLisuTone : Char → Bool := inRange 0xA4FC 0xA4FD

/-- The Old Turkic letter ec. -/
def orkhonEc : Char := Char.ofNat 0x10C32

/-- The Old Turkic letter i. -/
def orkhonI : Char := Char.ofNat 0x10C03

/-- The Kirat Rai vowel sign aa. -/
def kiratAa : Char := Char.ofNat 0x16D63

/-- The Kirat Rai vowel sign e. -/
def kiratE : Char := Char.ofNat 0x16D67

/-- The Kirat Rai vowel sign ai, which two signs e make. -/
def kiratAi : Char := Char.ofNat 0x16D68

/-- The Kirat Rai vowel sign o, which the signs aa and e make. -/
def kiratO : Char := Char.ofNat 0x16D69

/-- Whether a character is a raised quotation mark. -/
def isQuotationMark (character : Char) : Bool :=
  inRanges [(0x2018, 0x2019), (0x201C, 0x201D)] character

/-- The selector that makes the quotation mark before it wide. -/
def quotationSelector : Char := '\uFE01'

end OpticalLink.Text
