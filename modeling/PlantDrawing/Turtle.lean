import PlantDrawing.Grammar
import PlantDrawing.Segment
import PlantDrawing.Settings

/-!
# The turtle

The turtle walks a word from left to right. Heading zero points along the
x-axis, and turns to the left are counter-clockwise. An opening bracket saves
where the turtle stands and enters a branch, one level deeper and with shorter
steps; the closing bracket puts the turtle back where it was saved. Symbols
without a meaning are passed over.

What a symbol means is settled first, by `Alphabet.command?`; the walk itself
sees commands alone.
-/

namespace PlantDrawing

/-- What a symbol tells the turtle to do. -/
inductive Command where
  | draw
  | move
  | left
  | right
  | enter
  | leave
  deriving DecidableEq, Repr

/-- What a symbol means under an alphabet. Membership in the alphabet comes
    first, so a bracket or a sign that is listed there draws or moves. -/
def Alphabet.command? (alphabet : Alphabet) (symbol : Char) : Option Command :=
  if alphabet.draws symbol then some .draw
  else if alphabet.walks symbol then some .move
  else if symbol = Word.leftTurn then some .left
  else if symbol = Word.rightTurn then some .right
  else if symbol = Word.opening then some .enter
  else if symbol = Word.closing then some .leave
  else none

/-- The commands of a word; symbols without a meaning leave no trace. -/
def Alphabet.commands (alphabet : Alphabet) (word : Word) : List Command :=
  word.filterMap alphabet.command?

/-- Where the turtle stands and looks, how long its step is, and how many
    branches it is in. The heading is in degrees. -/
structure Pose where
  x : Float
  y : Float
  heading : Float
  step : Float
  depth : Nat
  deriving DecidableEq

namespace Pose

/-- The pose at the origin, looking along the x-axis. -/
def initial (settings : Settings) : Pose := ⟨0, 0, 0, settings.step, 0⟩

/-- The pose one step ahead. There is none if the heading is infinite. -/
def forward (pose : Pose) : Except ArithmeticFault Pose := do
  let cosine ← Double.cosine (Double.radians pose.heading)
  let sine ← Double.sine (Double.radians pose.heading)
  .ok { pose with x := pose.x + pose.step * cosine, y := pose.y + pose.step * sine }

/-- The pose at the start of a branch. -/
def deeper (scale : Float) (pose : Pose) : Pose :=
  { pose with step := pose.step * scale, depth := pose.depth + 1 }

/-- The segment from one pose to another, at the depth of the first. -/
def segmentTo (pose next : Pose) : Segment :=
  ⟨pose.x, pose.y, next.x, next.y, pose.depth⟩

end Pose

/-- A walk so far: the turtle's pose, the poses saved by the branches it is in,
    the innermost first, and the segments drawn, the latest first. -/
structure Walk where
  pose : Pose
  saved : List Pose
  drawn : List Segment
  deriving DecidableEq

namespace Walk

/-- The walk that has not begun. -/
def initial (settings : Settings) : Walk := ⟨.initial settings, [], []⟩

/-- Carries out one command. -/
def apply (angle scale : Float) (walk : Walk) : Command → Except Fault Walk
  | .draw => do
    let next ← walk.pose.forward.mapError .arithmetic
    .ok { walk with pose := next, drawn := walk.pose.segmentTo next :: walk.drawn }
  | .move => do
    let next ← walk.pose.forward.mapError .arithmetic
    .ok { walk with pose := next }
  | .left => .ok { walk with pose := { walk.pose with heading := walk.pose.heading + angle } }
  | .right => .ok { walk with pose := { walk.pose with heading := walk.pose.heading - angle } }
  | .enter => .ok { walk with pose := walk.pose.deeper scale, saved := walk.pose :: walk.saved }
  | .leave =>
    match walk.saved with
    | [] => .error (.unbalancedBranch walk.drawn.length)
    | pose :: rest => .ok { walk with pose := pose, saved := rest }

/-- Carries out commands one after another. -/
def run (angle scale : Float) (walk : Walk) (commands : List Command) : Except Fault Walk :=
  commands.foldlM (apply angle scale) walk

/-- The segments drawn, in the order of drawing. -/
def segments (walk : Walk) : List Segment :=
  walk.drawn.reverse

/-- Two lists of commands one after the other continue one walk. -/
theorem run_append (angle scale : Float) (walk : Walk) (first second : List Command) :
    walk.run angle scale (first ++ second) =
      (walk.run angle scale first).bind fun next => next.run angle scale second := by
  simp only [run, List.foldlM_append]
  rfl

end Walk

/-- Walks a word and gives the segments drawn. The settings are checked before
    the first step. -/
def Word.segments (word : Word) (angle : Float) (settings : Settings) (alphabet : Alphabet) :
    Except Fault (List Segment) := do
  settings.check
  let walk ← (Walk.initial settings).run angle settings.scale (alphabet.commands word)
  .ok walk.segments

end PlantDrawing
