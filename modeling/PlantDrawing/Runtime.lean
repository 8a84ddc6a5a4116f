/-!
# The runtime

The program stands on a runtime that lets calls nest only so deep, and refuses numerals
that are very long. Where these bounds lie depends on the runtime and on how the program
was called, so they are parameters of whatever runs into them.
-/

namespace PlantDrawing

/-- The bounds of a runtime. -/
structure Runtime where
  /-- The most folders, missing one in another, that can be made at once. -/
  folders : Nat
  /-- The most arrays and objects, one in another, that can be read. -/
  nesting : Nat
  /-- The most digits of a whole number that can be read. -/
  digits : Nat
  /-- No runtime can be told to refuse fewer digits than these. -/
  digitsAllowed : 640 ≤ digits := by decide
  deriving Repr

/-- A runtime as it comes. -/
def Runtime.usual : Runtime where
  folders := 987
  nesting := 990
  digits := 4300

end PlantDrawing
