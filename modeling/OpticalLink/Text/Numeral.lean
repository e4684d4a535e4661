/-!
# Decimal numerals

Whole numbers as digits with an optional sign. The digits are the ten of ASCII;
leading zeros are allowed and there is at least one digit.
-/

namespace OpticalLink.Text

/-- The value of a decimal digit. -/
def digitValue? (character : Char) : Option Nat :=
  if '0' ≤ character ∧ character ≤ '9' then some (character.toNat - 48) else none

/-- Reads further digits behind a number. -/
def digitsFrom? (number : Nat) (digits : List Char) : Option Nat :=
  digits.foldlM (fun sum digit => (digitValue? digit).map (10 * sum + ·)) number

/-- The number that one or more digits write. -/
def digits? : List Char → Option Nat
  | [] => none
  | digits => digitsFrom? 0 digits

/-- The whole number that digits after an optional sign write. -/
def integer? : List Char → Option Int
  | '-' :: digits => (digits? digits).map fun magnitude => -(magnitude : Int)
  | '+' :: digits => (digits? digits).map Int.ofNat
  | digits => (digits? digits).map Int.ofNat

/-- The natural number that digits after an optional plus write. -/
def natural? : List Char → Option Nat
  | '+' :: digits => digits? digits
  | digits => digits? digits

/-- Whether a number is at least `low` and at most `high`. -/
def between (low high number : Int) : Bool := decide (low ≤ number) && decide (number ≤ high)

/-- The least number of 64 signed bits. -/
def minSigned64 : Int := -9223372036854775808

/-- The greatest number of 64 signed bits. -/
def maxSigned64 : Int := 9223372036854775807

/-- The greatest number of 64 unsigned bits. -/
def maxUnsigned64 : Nat := 18446744073709551615

/-- A numeral of 64 signed bits. -/
def signed64? (characters : List Char) : Option Int :=
  (integer? characters).filter (between minSigned64 maxSigned64)

/-- A numeral of 64 unsigned bits. A minus is no part of it. -/
def unsigned64? (characters : List Char) : Option Nat :=
  (natural? characters).filter (· ≤ maxUnsigned64)

end OpticalLink.Text
