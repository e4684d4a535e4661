import OpticalLink.Json.Value
import OpticalLink.Text.Numeral

/-!
# Reading numbers

A number is an optional minus, digits without a leading zero, an optional
fraction and an optional exponent. One without fraction and exponent is a whole
number if it fits 64 bits, unsigned or below zero signed. Any other one is read
with a 64-bit significand and scaled once by a power of ten, so that digits
beyond the significand count only as places.
-/

namespace OpticalLink.JsonNumber

open OpticalLink.Text

/-- The parts of a number as written. -/
structure Numeral where
  negative : Bool
  whole : List Char
  /-- The digits behind the point, if there is a point. -/
  fraction : Option (List Char)
  /-- The exponent, if there is one. -/
  exponent : Option Int

/-- Cuts the digits off the front. -/
def splitDigits (characters : List Char) : List Char × List Char :=
  characters.span Char.isDigit

/-- Reads an exponent to the end: digits after an optional sign. -/
def exponent? : List Char → Option (Option Int)
  | [] => some none
  | mark :: rest => if mark = 'e' ∨ mark = 'E' then (integer? rest).map some else none

/-- Whether digits may stand before the point: at least one, and zero only alone. -/
def isWhole : List Char → Bool
  | [] => false
  | ['0'] => true
  | digit :: _ => digit != '0'

/-- Takes a number apart. -/
def Numeral.ofText? (characters : List Char) : Option Numeral := do
  let (negative, characters) := match characters with
    | '-' :: rest => (true, rest)
    | _ => (false, characters)
  let (whole, rest) := splitDigits characters
  if isWhole whole then
    match rest with
    | '.' :: rest =>
      let (fraction, rest) := splitDigits rest
      if fraction.isEmpty then none
      else (exponent? rest).map fun exponent => ⟨negative, whole, some fraction, exponent⟩
    | _ => (exponent? rest).map fun exponent => ⟨negative, whole, none, exponent⟩
  else none

/-- Digits in a 64-bit significand and the number of those that no longer fit.
From the first one on that does not fit, all are left out. -/
structure Significand where
  value : Nat
  omitted : Nat

/-- Adds one digit. -/
def Significand.push (significand : Significand) (digit : Char) : Significand :=
  let extended := 10 * significand.value + (digit.toNat - 48)
  if significand.omitted = 0 && extended ≤ maxUnsigned64 then ⟨extended, 0⟩
  else ⟨significand.value, significand.omitted + 1⟩

/-- Adds digits to a significand. -/
def Significand.pushAll (value : Nat) (digits : List Char) : Significand :=
  digits.foldl Significand.push ⟨value, 0⟩

/-- The largest power of ten that a float is scaled by at once. -/
def largestScale : Nat := 308

/-- A power of ten as a float. -/
def powerOfTen (exponent : Nat) : Float := Float.ofScientific 1 false exponent

/-- Divides by a power of ten, by the largest scale first. -/
def scaleDown (value : Float) (exponent : Nat) : Float :=
  if exponent ≤ largestScale then value / powerOfTen exponent
  else if value == 0.0 then value
  else scaleDown (value / powerOfTen largestScale) (exponent - largestScale)
termination_by exponent
decreasing_by simp only [largestScale] at *; omega

/-- A significand times a power of ten, unless that is too large. -/
def scaled? (significand : Nat) (exponent : Int) : Option Float :=
  let value := (UInt64.ofNat significand).toFloat
  if exponent < 0 then some (scaleDown value exponent.natAbs)
  else if exponent.natAbs ≤ largestScale then
    let product := value * powerOfTen exponent.natAbs
    if product.isInf then none else some product
  else if value == 0.0 then some value
  else none

/-- The float that a numeral stands for. The digits of the fraction take the room
that the whole digits leave. -/
def Numeral.toFloat? (numeral : Numeral) : Option Float := do
  let whole := Significand.pushAll 0 numeral.whole
  let fraction := numeral.fraction.getD []
  let all := Significand.pushAll whole.value fraction
  let places : Int := fraction.length - all.omitted
  let exponent : Int := whole.omitted - places + numeral.exponent.getD 0
  let value ← scaled? all.value exponent
  return if numeral.negative then -value else value

/-- The whole number that a numeral stands for, if it is written as one and fits
64 bits. A negative zero is no whole number. -/
def Numeral.toInteger? (numeral : Numeral) : Option Int :=
  if numeral.fraction.isSome || numeral.exponent.isSome then none
  else
    (digits? numeral.whole).bind fun magnitude =>
      if numeral.negative then
        if magnitude = 0 then none
        else (some (-(magnitude : Int))).filter (minSigned64 ≤ ·)
      else (some (magnitude : Int)).filter (· ≤ maxUnsigned64)

/-- The number that a text writes. -/
def ofText? (characters : List Char) : Option JsonNumber := do
  let numeral ← Numeral.ofText? characters
  match numeral.toInteger? with
  | some value => return .integer value
  | none => return .float (← numeral.toFloat?)

end OpticalLink.JsonNumber
