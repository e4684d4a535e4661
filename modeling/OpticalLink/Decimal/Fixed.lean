import OpticalLink.Decimal.Binary

/-!
# Decimals with a set number of places

The exact value is rounded to the nearest decimal of so many places, halfway
cases to the even last digit. The sign is that of the number, also where all
digits are zero.
-/

namespace OpticalLink.Decimal

/-- A magnitude with some places behind the point. -/
def Binary.fixed (binary : Binary) (places : Nat) : String :=
  let scaled := roundHalfEven (binary.numerator (binary.mantissa * tenTo places)) binary.denominator
  let digits := digitsOf scaled
  let digits := List.replicate (places + 1 - digits.length) '0' ++ digits
  let whole := digits.take (digits.length - places)
  let fraction := digits.drop (digits.length - places)
  String.ofList (if places = 0 then whole else whole ++ '.' :: fraction)

/-- A number with some places behind the point. -/
def fixed (value : Float) (places : Nat) : String :=
  match Reading.ofFloat value with
  | .nan => "NaN"
  | .infinity negative => if negative then "-inf" else "inf"
  | .finite negative magnitude => (if negative then "-" else "") ++ magnitude.fixed places

end OpticalLink.Decimal
