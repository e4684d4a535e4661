/-!
# Ranges of characters

A property of characters is given by the ranges of code points that have it, in
ascending order, each as its first and its last.
-/

namespace OpticalLink.Text

/-- Whether a character lies in one of some ranges. -/
def inRanges (ranges : List (Nat × Nat)) (character : Char) : Bool :=
  ranges.any fun range => range.1 ≤ character.toNat && character.toNat ≤ range.2

/-- Whether a character lies from a first to a last code point. -/
def inRange (first last : Nat) (character : Char) : Bool :=
  first ≤ character.toNat && character.toNat ≤ last

end OpticalLink.Text
