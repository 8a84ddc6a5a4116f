import PlantDrawing.Text

/-!
# Options of an SVG document

How a drawing is laid out and styled. The fields have no limits here; which of
them make sense is for whoever reads them from outside to check. The words of
the style and the background may be texts that no file can hold; that is found out
when a drawing is written with them.
-/

namespace PlantDrawing

/-- The paint of the strokes. -/
structure StrokeStyle where
  color : Text := "#2f5d1e"
  linecap : Text := "round"
  linejoin : Text := "round"
  deriving DecidableEq

/-- How a drawing becomes an SVG document. -/
structure SvgOptions where
  /-- The room around the drawing. -/
  margin : Float := 10
  /-- The most digits after the point of a number. -/
  precision : Int := 3
  /-- Whether the y-axis points upwards. -/
  flipY : Bool := true
  /-- The angle in degrees by which the drawing is turned. -/
  rotation : Float := 90
  width : Option Float := none
  height : Option Float := none
  background : Option Text := none
  /-- The factor on the width of a stroke for each depth. -/
  fade : Float := 1
  style : StrokeStyle := {}
  deriving DecidableEq

end PlantDrawing
