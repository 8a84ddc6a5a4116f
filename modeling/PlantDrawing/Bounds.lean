import PlantDrawing.Fault
import PlantDrawing.Segment

/-!
# Bounds

The bounds of a drawing are the smallest box around its segments. A drawing
without segments has empty bounds, which contain nothing and cannot be widened.
A coordinate that is no number does not count.
-/

namespace PlantDrawing

/-- A box between two corners. -/
structure Box where
  minX : Float
  minY : Float
  maxX : Float
  maxY : Float
  deriving DecidableEq

namespace Box

/-- The box that holds no point: every coordinate lies beyond its sides. -/
def void : Box :=
  ⟨Double.infinity, Double.infinity, -Double.infinity, -Double.infinity⟩

/-- The box widened as far as a point needs. A point that lies on a side changes
    nothing. -/
def extend (box : Box) (x y : Float) : Box where
  minX := if x < box.minX then x else box.minX
  minY := if y < box.minY then y else box.minY
  maxX := if box.maxX < x then x else box.maxX
  maxY := if box.maxY < y then y else box.maxY

/-- The box widened to both ends of a segment. -/
def extendSegment (box : Box) (segment : Segment) : Box :=
  (box.extend segment.x1 segment.y1).extend segment.x2 segment.y2

/-- The distance between the left and the right side. -/
def width (box : Box) : Float := box.maxX - box.minX

/-- The distance between the lower and the upper side. -/
def height (box : Box) : Float := box.maxY - box.minY

/-- Whether a point lies in the box or on its sides. -/
def contains (box : Box) (x y : Float) : Bool :=
  box.minX ≤ x && x ≤ box.maxX && box.minY ≤ y && y ≤ box.maxY

/-- The box with every side moved outwards by a margin. -/
def padded (box : Box) (margin : Float) : Box :=
  ⟨box.minX - margin, box.minY - margin, box.maxX + margin, box.maxY + margin⟩

end Box

/-- The bounds of a drawing: none, or a box. -/
inductive Bounds where
  | empty
  | box (box : Box)
  deriving DecidableEq

namespace Bounds

/-- The smallest box around all segments. -/
def ofSegments : List Segment → Bounds
  | [] => .empty
  | segments => .box (segments.foldl Box.extendSegment .void)

/-- Whether a point lies within the bounds. -/
def contains : Bounds → Float → Float → Bool
  | empty, _, _ => false
  | box b, x, y => b.contains x y

/-- The bounds with a margin on every side. Empty bounds have no sides. -/
def padded : Bounds → Float → Except Fault Box
  | empty, _ => .error (.config .emptyBox)
  | box b, margin => .ok (b.padded margin)

end Bounds

end PlantDrawing
