import PlantDrawing.Double

/-!
# Arithmetic that can fail

Most operations on doubles always have a result, an infinite one if need be. The
few that refuse an argument or a result are here, each with the reason.
-/

namespace PlantDrawing

/-- Why an operation has no result. -/
inductive ArithmeticFault where
  /-- The result is too large for a double. -/
  | overflow
  /-- The operation is not defined at its argument. -/
  | undefined
  /-- Zero was raised to a negative power. -/
  | zeroDivision
  deriving DecidableEq, Repr

namespace ArithmeticFault

/-- The wording of each reason. -/
def message : ArithmeticFault → String
  | overflow => "result too large"
  | undefined => "math domain error"
  | zeroDivision => "zero cannot be raised to a negative power"

end ArithmeticFault

namespace Double

/-- The double nearest to a whole number, which must not be too large for one. -/
def ofInt (n : Int) : Except ArithmeticFault Float :=
  let x := Float.ofInt n
  if x.isInf then .error .overflow else .ok x

/-- The cosine of an angle in radians. An infinite angle has none. -/
def cosine (angle : Float) : Except ArithmeticFault Float :=
  if angle.isInf then .error .undefined else .ok angle.cos

/-- The sine of an angle in radians. An infinite angle has none. -/
def sine (angle : Float) : Except ArithmeticFault Float :=
  if angle.isInf then .error .undefined else .ok angle.sin

/-- One degree in radians: the double nearest to the 180th part of the double
    nearest to half a turn. -/
def radiansPerDegree : Float := Float.ofBits 0x3F91DF46A2529D39

/-- An angle in degrees, in radians. -/
def radians (degrees : Float) : Float :=
  degrees * radiansPerDegree

/-- Whether the double nearest to a whole number is odd: those past two to the
    53rd are all even. -/
def isOddExponent (n : Int) : Bool :=
  n.natAbs ≤ Nat.pow 2 53 && n % 2 != 0

/-- The power of a positive finite base other than one. An infinite result is an
    overflow; a result too small for a double is zero. -/
def powerOfPositive (base exponent : Float) : Except ArithmeticFault Float :=
  let result := base.pow exponent
  if result.isInf then .error .overflow else .ok result

/-- A base raised to a whole power, which is first rounded to a double itself. -/
def power (base : Float) (n : Int) : Except ArithmeticFault Float := do
  let exponent ← ofInt n
  let odd := isOddExponent n
  if n = 0 then .ok 1
  else if base.isNaN then .ok base
  else if base.isInf then
    if 0 < n then .ok (if odd then base else base.abs)
    else .ok (if odd && base < 0 then -0.0 else 0)
  else if base == 0 then
    if n < 0 then .error .zeroDivision
    else .ok (if odd then base else 0)
  else
    let magnitude ← if base.abs == 1 then .ok 1 else powerOfPositive base.abs exponent
    .ok (if base < 0 && odd then -magnitude else magnitude)

end Double

end PlantDrawing
