import PlantDrawing.Double

/-!
# Hypotenuses

The length of the hypotenuse of a right triangle, without overflow or underflow
on the way. Both sides are scaled by the power of two that puts the longer one
between a half and one. Their squares go into a compensated sum: every square is
taken apart into products that are exact, and what the running total loses when
it is rounded is kept beside it. The root of the sum is then corrected once, by
what its own square still leaves of the sum.

The result is the double nearest to the exact length, except where that lies all
but in the middle between two doubles; there it may be either of them. Sides
among the smallest doubles, which no power of two can scale, are measured by the
longer one instead, with one more rounding.
-/

namespace PlantDrawing.Double

/-! ## Powers of two -/

/-- Two to the power of `n`, for an exponent from -1074 to 1023. -/
def powerOfTwo (n : Int) : Float :=
  if -1022 ≤ n then Float.ofBits ((n + 1023).toNat.toUInt64 <<< 52)
  else Float.ofBits (1 <<< (n + 1074).toNat.toUInt64)

/-- The exponent of the least power of two above a positive finite double. -/
def exponentAbove (x : Float) : Int :=
  match exactValue? x with
  | some exact => exact.exponent + exact.mantissa.log2 + 1
  | none => 0

/-! ## Sums of squares -/

/-- A double as the sum of two with half the digits each, so that the products
    of such halves are exact. -/
def halves (x : Float) : Float × Float :=
  let shifted := x * 134217729
  let high := shifted - (shifted - x)
  (high, x - high)

/-- What the double nearest to a sum leaves of it, when the total is not smaller
    than the term. -/
def lossOf (total term : Float) : Float :=
  (total - (total + term)) + term

/-- A compensated sum of squares: the running total, and what it has lost, apart
    for the squares of high halves, the mixed products and the squares of low
    halves. The total begins at one, so that no term is greater. -/
structure SquareSum where
  total : Float
  high : Float
  mixed : Float
  low : Float

namespace SquareSum

/-- The empty sum. -/
def empty : SquareSum := ⟨1, 0, 0, 0⟩

/-- The sum with one more square of a high half. -/
def addHigh (sum : SquareSum) (term : Float) : SquareSum :=
  { sum with total := sum.total + term, high := sum.high + lossOf sum.total term }

/-- The sum with one more mixed product. -/
def addMixed (sum : SquareSum) (term : Float) : SquareSum :=
  { sum with total := sum.total + term, mixed := sum.mixed + lossOf sum.total term }

/-- The sum with one more square of a low half. -/
def addLow (sum : SquareSum) (term : Float) : SquareSum :=
  { sum with total := sum.total + term, low := sum.low + lossOf sum.total term }

/-- The sum with the square of a number below one. The square of the low half is
    too small to change the total. -/
def add (sum : SquareSum) (x : Float) : SquareSum :=
  let (high, low) := halves x
  let sum := (sum.addHigh (high * high)).addMixed (2 * high * low)
  { sum with low := sum.low + low * low }

/-- The sum without the square of a number. -/
def remove (sum : SquareSum) (x : Float) : SquareSum :=
  let (high, low) := halves x
  ((sum.addHigh (-high * high)).addMixed (-2 * high * low)).addLow (-low * low)

/-- What the sum comes to. -/
def value (sum : SquareSum) : Float :=
  sum.total - 1 + (sum.high + sum.mixed + sum.low)

/-- The root of a sum that is not zero: the root of its value, corrected once. -/
def root (sum : SquareSum) : Float :=
  let first := sum.value.sqrt
  first + (sum.remove first).value / (2 * first)

end SquareSum

/-! ## The hypotenuse -/

/-- The hypotenuse over two sides that are scaled by a power of two; `exponent` is
    that of the least one above the longer side. -/
def scaledHypotenuse (exponent : Int) (x y : Float) : Float :=
  let scale := powerOfTwo (-exponent)
  ((SquareSum.empty.add (x * scale)).add (y * scale)).root / scale

/-- The hypotenuse over two sides that are measured by the longer one. Their
    squares are rounded before they are added. -/
def relativeHypotenuse (longer x y : Float) : Float :=
  let square (side : Float) : Float := (side / longer) * (side / longer)
  let sum := (SquareSum.empty.addHigh (square x)).addHigh (square y)
  longer * (sum.total - 1 + sum.high).sqrt

/-- The smallest exponent whose opposite still belongs to a finite power of
    two. -/
def leastExponent : Int := -1023

/-- The length of the hypotenuse over two sides: infinite as soon as one side
    is, and otherwise no number if one side is none. -/
def hypotenuse (x y : Float) : Float :=
  if x.isInf || y.isInf then infinity
  else if x.isNaN || y.isNaN then notANumber
  else
    let longer := if x.abs < y.abs then y.abs else x.abs
    let exponent := exponentAbove longer
    if longer == 0 then 0
    else if leastExponent ≤ exponent then scaledHypotenuse exponent x.abs y.abs
    else relativeHypotenuse longer x.abs y.abs

end PlantDrawing.Double
