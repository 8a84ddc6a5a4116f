import PlantDrawing.Arithmetic
import PlantDrawing.Hypotenuse

/-!
# Segments

A drawing is a list of straight segments in the order in which they were drawn,
each tagged with the depth of the branch it belongs to. A drawing can be turned
about the origin, and sorted into layers, one for each depth.
-/

namespace PlantDrawing

/-- A straight line from one point to another, at a branch depth. -/
structure Segment where
  x1 : Float
  y1 : Float
  x2 : Float
  y2 : Float
  depth : Int
  deriving DecidableEq

namespace Segment

/-- The distance between the two ends. -/
def length (segment : Segment) : Float :=
  Double.hypotenuse (segment.x2 - segment.x1) (segment.y2 - segment.y1)

/-- A segment turned about the origin by the angle with a given cosine and
    sine. -/
def turned (cosine sine : Float) (segment : Segment) : Segment where
  x1 := cosine * segment.x1 - sine * segment.y1
  y1 := sine * segment.x1 + cosine * segment.y1
  x2 := cosine * segment.x2 - sine * segment.y2
  y2 := sine * segment.x2 + cosine * segment.y2
  depth := segment.depth

/-- Turns a drawing counter-clockwise about the origin by an angle in degrees. A
    zero angle leaves every coordinate as it is. -/
def rotate (segments : List Segment) (angle : Float) : Except ArithmeticFault (List Segment) := do
  if angle == 0 then .ok segments
  else
    let cosine ← Double.cosine (Double.radians angle)
    let sine ← Double.sine (Double.radians angle)
    .ok (segments.map (turned cosine sine))

end Segment

/-! ## Layers -/

/-- The segments of one depth, in the order in which they were drawn. -/
structure Layer where
  depth : Int
  segments : List Segment
  deriving DecidableEq

namespace Layer

/-- Puts a segment in front of the layer of its depth, in a list of layers from
    the shallowest to the deepest. -/
def insert (segment : Segment) : List Layer → List Layer
  | [] => [⟨segment.depth, [segment]⟩]
  | layer :: rest =>
    if segment.depth < layer.depth then ⟨segment.depth, [segment]⟩ :: layer :: rest
    else if segment.depth = layer.depth then ⟨layer.depth, segment :: layer.segments⟩ :: rest
    else layer :: insert segment rest

/-- The layers of a drawing, the shallowest first. -/
def ofSegments (segments : List Segment) : List Layer :=
  segments.foldr insert []

end Layer

end PlantDrawing
