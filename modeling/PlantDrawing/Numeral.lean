/-!
# Decimal numerals

A numeral is a list of decimal digits. Its value is the positional one. A
number with a point and an exponent is the integer that all its digits form,
times a power of ten, and is read as the nearest double.
-/

namespace PlantDrawing.Numeral

/-- The decimal digits. -/
def isDigit (c : Char) : Bool :=
  '0' ≤ c && c ≤ '9'

/-- The value of a digit. -/
def digitValue (c : Char) : Nat :=
  c.toNat - '0'.toNat

/-- The positional value of a numeral. -/
def value (digits : List Char) : Nat :=
  digits.foldl (fun total digit => 10 * total + digitValue digit) 0

/-- The digits in front of a text, and what follows them. -/
def span (text : List Char) : List Char × List Char :=
  (text.takeWhile isDigit, text.dropWhile isDigit)

/-- No character is lost by taking the digits off a text. -/
theorem span_append (text : List Char) : (span text).1 ++ (span text).2 = text :=
  List.takeWhile_append_dropWhile

/-- The double nearest to `digits` times ten to the `exponent`, infinite when no
    finite double is near enough. -/
def scaled (negative : Bool) (digits : Nat) (exponent : Int) : Float :=
  let magnitude := Float.ofScientific digits (exponent < 0) exponent.natAbs
  if negative then -magnitude else magnitude

/-- The double nearest to a number written as whole digits, digits after the
    point, and a power of ten. -/
def toDouble (negative : Bool) (whole fraction : List Char) (exponent : Int) : Float :=
  scaled negative (value (whole ++ fraction)) (exponent - fraction.length)

end PlantDrawing.Numeral
