import PlantDrawing.Fault

/-!
# Settings of a drawing

The length of a step, the factor by which a branch shortens it, and the width of
a stroke.
-/

namespace PlantDrawing

/-- How long the turtle's steps are and how wide its strokes. -/
structure Settings where
  /-- The length of a step outside every branch. -/
  step : Float := 10
  /-- The factor on the length of a step for each branch entered. -/
  scale : Float := 1
  /-- The width of a stroke outside every branch. -/
  stroke : Float := 1
  deriving DecidableEq

namespace Settings

/-- Refuses a number that is not above zero. -/
def checkPositive (setting : String) (x : Float) : Except Fault Unit :=
  if 0 < x then .ok () else .error (.config (.notPositive setting))

/-- Steps must have a length and so must the steps of every branch. The width of
    a stroke does not matter to the turtle and is not checked here. -/
def check (settings : Settings) : Except Fault Unit := do
  checkPositive "step_length" settings.step
  checkPositive "length_scale" settings.scale

/-- Strokes must have a width where they are to be seen. -/
def checkStroke (stroke : Float) : Except Fault Unit :=
  checkPositive "stroke_width" stroke

end Settings

end PlantDrawing
