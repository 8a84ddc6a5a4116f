import PlantDrawing.Double
import PlantDrawing.Fault

/-!
# Decimal text of doubles

A double is written with at most a given number of digits after the point: its
exact value is rounded to the nearest multiple of that power of ten, a tie going
to the even one, and zeros at the end of the fraction are left out, with the
point if nothing follows it. Zero has no sign. The doubles that are no real
numbers are written as words.
-/

namespace PlantDrawing

/-- A decimal number: so many units of ten to the minus `places`. -/
structure Decimal where
  negative : Bool
  units : Nat
  places : Nat
  deriving DecidableEq, Repr

namespace Decimal

/-- The whole number nearest to a quotient; of two equally near ones, the even
    one. -/
def nearestQuotient (numerator denominator : Nat) : Nat :=
  let quotient := numerator / denominator
  let twice := 2 * (numerator % denominator)
  if twice < denominator then quotient
  else if denominator < twice then quotient + 1
  else quotient + quotient % 2

/-- The whole number nearest to the size of an exact number times ten to
    `places`. -/
def nearestUnits (x : Double.Exact) (places : Nat) : Nat :=
  let scaled := x.mantissa * Nat.pow 10 places
  if 0 ≤ x.exponent then scaled * Nat.pow 2 x.exponent.toNat
  else nearestQuotient scaled (Nat.pow 2 (-x.exponent).toNat)

/-- The nearest decimal number with a given number of places. -/
def nearest (x : Double.Exact) (places : Nat) : Decimal :=
  ⟨x.negative, nearestUnits x places, places⟩

/-- Units and places without the zeros at the end of the fraction. -/
def trimUnits : (units places : Nat) → Nat × Nat
  | units, 0 => (units, 0)
  | units, places + 1 =>
    if units % 10 = 0 then trimUnits (units / 10) places else (units, places + 1)

/-- The same number without the zeros at the end of its fraction. -/
def trim (d : Decimal) : Decimal :=
  let (units, places) := trimUnits d.units d.places
  ⟨d.negative, units, places⟩

/-- The last `width` digits of a number, zeros in front if it has fewer. -/
def paddedDigits (width n : Nat) : List Char :=
  let digits := Nat.toDigits 10 n
  List.replicate (width - digits.length) '0' ++ digits

/-- The sign of a number that is not zero. -/
def sign (d : Decimal) : List Char :=
  if d.negative ∧ d.units ≠ 0 then ['-'] else []

/-- The point and the digits after it, if there are any. -/
def fraction (d : Decimal) : List Char :=
  if d.places = 0 then [] else '.' :: paddedDigits d.places (d.units % Nat.pow 10 d.places)

/-- The numeral of a decimal number. -/
def numeral (d : Decimal) : List Char :=
  d.sign ++ Nat.toDigits 10 (d.units / Nat.pow 10 d.places) ++ d.fraction

/-- The most places that a double can fill: further ones hold zeros alone. -/
def usefulPlaces : Nat := 1074

/-- The text of a double with at most `places` digits after the point. -/
def text (x : Float) (places : Nat) : String :=
  match Double.exactValue? x with
  | some exact => String.ofList (nearest exact (min places usefulPlaces)).trim.numeral
  | none => if x.isNaN then "nan" else if x < 0 then "-inf" else "inf"

/-- The largest number of digits that may be asked for. -/
def mostPlaces : Int := 2147483647

/-- A number of digits after the point, which must be one that can be asked
    for. -/
def checkPlaces (precision : Int) : Except Fault Nat :=
  if precision < 0 ∨ mostPlaces < precision then .error .digitCount else .ok precision.toNat

/-- Like `Decimal.text`, for a number of digits that has still to be checked. -/
def print (x : Float) (precision : Int) : Except Fault String := do
  let places ← checkPlaces precision
  .ok (text x places)

end Decimal

end PlantDrawing
