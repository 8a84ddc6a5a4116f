/-!
# Doubles

All lengths and places are IEEE doubles. This module names the ones that are no
real numbers, and reads a finite one as the exact number it stands for.
-/

namespace PlantDrawing.Double

/-- Positive infinity. -/
def infinity : Float := Float.ofBits 0x7FF0000000000000

/-- The double that is no number. -/
def notANumber : Float := Float.ofBits 0x7FF8000000000000

/-- The exact number that a finite double stands for: its sign, and a whole
    number times a power of two. -/
structure Exact where
  negative : Bool
  mantissa : Nat
  exponent : Int
  deriving DecidableEq, Repr

/-- The exact number behind a double; nothing for infinities and for the double
    that is no number. -/
def exactValue? (x : Float) : Option Exact :=
  match x.toModel.unpack with
  | .infinity _ => none
  | .notANumber => none
  | .zero sign => some ⟨sign matches .negative, 0, 0⟩
  | .finite sign mantissa exponent _ => some ⟨sign matches .negative, mantissa, exponent⟩

end PlantDrawing.Double
