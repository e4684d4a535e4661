import OpticalLink.Decimal.Binary

/-!
# The shortest decimal that reads back

The numbers that round to a given binary fraction form an interval. Of the
decimals in it those with the fewest digits are taken, and of these the nearest
one; halfway goes to the even digit.
-/

namespace OpticalLink.Decimal

/-- Digits with the place of the point: `0.d₁d₂… * 10 ^ point`. -/
structure Scientific where
  digits : List Char
  point : Int
deriving DecidableEq, Repr

namespace Binary

/-- The least power of ten above the magnitude. The smallest magnitude is above
`10 ^ (-330)`, so the digits of the magnitude times `10 ^ 330` count it. -/
def magnitudeOrder (binary : Binary) : Int :=
  (digitsOf (binary.numerator (binary.mantissa * tenTo 330) / binary.denominator)).length - 330

/-- Whether `count * 10 ^ power` reads back as this magnitude. The ends of the
interval lie halfway to the neighbours and belong to it when the mantissa is
even. -/
def readsBack (binary : Binary) (count : Nat) (power : Int) : Bool :=
  let unit := tenTo (-power).toNat
  let low := binary.numerator (4 * binary.mantissa - (if binary.narrowBelow then 1 else 2)) * unit
  let high := binary.numerator (4 * binary.mantissa + 2) * unit
  let decimal := 4 * count * tenTo power.toNat * binary.denominator
  if binary.mantissa % 2 = 0 then low ≤ decimal && decimal ≤ high
  else low < decimal && decimal < high

/-- The multiple of `10 ^ power` that reads back, if one of the two around the
magnitude does; the nearer one when both do. -/
def onGrid? (binary : Binary) (power : Int) : Option Nat :=
  let numerator := binary.numerator (binary.mantissa * tenTo (-power).toNat)
  let denominator := binary.denominator * tenTo power.toNat
  let below := numerator / denominator
  let nearest := roundHalfEven numerator denominator
  let farther := if nearest = below then below + 1 else below
  if binary.readsBack nearest power then some nearest
  else if binary.readsBack farther power then some farther
  else none

/-- A multiple of a power of ten without the zeros at its end. -/
def multiple (count : Nat) (power : Int) : Scientific :=
  let digits := digitsOf count
  ⟨(digits.reverse.dropWhile (· = '0')).reverse, digits.length + power⟩

/-- The shortest decimal of a magnitude that is not zero. Seventeen digits always
read back. -/
def shortest (binary : Binary) : Scientific :=
  let order := binary.magnitudeOrder
  let found := (List.range 17).findSome? fun (places : Nat) =>
    let power := order - (places + 1)
    (binary.onGrid? power).map fun count => multiple count power
  found.getD (multiple
    (roundHalfEven (binary.numerator (binary.mantissa * tenTo 1100)) binary.denominator) (-1100))

end Binary

/-- Decisions on how digits are laid out. -/
structure Layout where
  /-- The least exponent that is written with leading zeros. -/
  leastPositional : Int
  /-- The greatest exponent that is written with trailing zeros. -/
  greatestPositional : Int

namespace Scientific

/-- The exponent when one digit stands before the point. -/
def exponent (scientific : Scientific) : Int := scientific.point - 1

/-- The digits around a point at its place, with at least one digit on either
side. -/
def positional (scientific : Scientific) : List Char :=
  let digits := scientific.digits
  if scientific.point ≤ 0 then
    '0' :: '.' :: (List.replicate (-scientific.point).toNat '0' ++ digits)
  else
    let place := scientific.point.toNat
    let whole := digits.take place ++ List.replicate (place - digits.length) '0'
    let fraction := digits.drop place
    whole ++ '.' :: (if fraction.isEmpty then ['0'] else fraction)

/-- The digits with an exponent, which always has a sign. -/
def exponential (scientific : Scientific) : List Char :=
  let exponent := scientific.exponent
  let mark := if exponent < 0 then ['e', '-'] else ['e', '+']
  let power := digitsOf exponent.natAbs
  match scientific.digits with
  | [] => []
  | [digit] => digit :: (mark ++ power)
  | digit :: rest => digit :: '.' :: (rest ++ mark ++ power)

/-- The digits as a layout wants them. -/
def render (layout : Layout) (scientific : Scientific) : List Char :=
  if layout.leastPositional ≤ scientific.exponent ∧
      scientific.exponent ≤ layout.greatestPositional then scientific.positional
  else scientific.exponential

end Scientific

/-- A magnitude as the shortest decimal. -/
def Binary.render (layout : Layout) (binary : Binary) : String :=
  if binary.mantissa = 0 then "0.0" else String.ofList (binary.shortest.render layout)

end OpticalLink.Decimal
