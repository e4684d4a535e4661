/-!
# Binary fractions

A finite number of double precision as an exact product of a natural number and
a power of two, read off its bit pattern.
-/

namespace OpticalLink.Decimal

/-- A power of two. -/
def twoTo (exponent : Nat) : Nat := Nat.pow 2 exponent

/-- A power of ten. -/
def tenTo (exponent : Nat) : Nat := Nat.pow 10 exponent

/-- The magnitude `mantissa * 2 ^ exponent` of a finite number. -/
structure Binary where
  mantissa : Nat
  exponent : Int
  /-- Whether the gap to the next smaller magnitude is half as wide as the gap to
  the next larger one. -/
  narrowBelow : Bool
deriving DecidableEq, Repr

/-- A number of double precision. -/
inductive Reading where
  | nan
  | infinity (negative : Bool)
  | finite (negative : Bool) (magnitude : Binary)
deriving DecidableEq, Repr

/-- The number behind a bit pattern: one sign bit, eleven exponent bits, and
fifty-two bits of fraction. -/
def Reading.ofBits (bits : UInt64) : Reading :=
  let word : Nat := bits.toNat
  let negative := decide (twoTo 63 ≤ word)
  let scale : Nat := word / twoTo 52 % twoTo 11
  let fraction : Nat := word % twoTo 52
  if scale = 2047 then
    if fraction = 0 then .infinity negative else .nan
  else if scale = 0 then .finite negative ⟨fraction, -1074, false⟩
  else .finite negative ⟨twoTo 52 + fraction, (scale : Int) - 1075, decide (fraction = 0 ∧ 1 < scale)⟩

/-- The number behind a float. -/
def Reading.ofFloat (value : Float) : Reading := .ofBits value.toBits

namespace Binary

/-- The denominator of the magnitude as a fraction. -/
def denominator (binary : Binary) : Nat := twoTo (-binary.exponent).toNat

/-- The numerator of a mantissa at the scale of this magnitude, over
`denominator`. -/
def numerator (binary : Binary) (mantissa : Nat) : Nat := mantissa * twoTo binary.exponent.toNat

end Binary

/-- The nearest natural number to a fraction; halfway goes to the even one. -/
def roundHalfEven (numerator denominator : Nat) : Nat :=
  let quotient := numerator / denominator
  let rest := numerator % denominator
  if denominator < 2 * rest ∨ (2 * rest = denominator ∧ quotient % 2 = 1) then quotient + 1
  else quotient

/-- The decimal digits of a number. -/
def digitsOf (number : Nat) : List Char := Nat.toDigits 10 number

end OpticalLink.Decimal
