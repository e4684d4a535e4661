/-!
# Blank characters

The twenty-five characters that count as white space, and the removal of blanks
around and inside a text.
-/

namespace OpticalLink.Text

/-- The ranges of white space, ascending, with both ends included. -/
def blankRanges : List (Nat × Nat) :=
  [(0x9, 0xD), (0x20, 0x20), (0x85, 0x85), (0xA0, 0xA0), (0x1680, 0x1680), (0x2000, 0x200A),
    (0x2028, 0x2029), (0x202F, 0x202F), (0x205F, 0x205F), (0x3000, 0x3000)]

/-- Whether a character is white space. -/
def isBlank (character : Char) : Bool :=
  blankRanges.any fun range => range.1 ≤ character.toNat && character.toNat ≤ range.2

/-- The characters between the first and the last that is not blank. -/
def trimmed (characters : List Char) : List Char :=
  ((characters.dropWhile isBlank).reverse.dropWhile isBlank).reverse

/-- The characters that are not blank. -/
def withoutBlanks (characters : List Char) : List Char :=
  characters.filter fun character => !isBlank character

end OpticalLink.Text
