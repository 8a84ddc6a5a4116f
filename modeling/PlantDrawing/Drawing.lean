import PlantDrawing.Bounds
import PlantDrawing.Catalog
import PlantDrawing.Expansion
import PlantDrawing.Turtle

/-!
# Drawings

A drawing is the list of its segments together with their bounds. `Drawing.make`
goes all the way from the name of a built-in grammar to the drawing.
-/

namespace PlantDrawing

/-- The segments of a picture and the box around them. -/
structure Drawing where
  segments : List Segment
  bounds : Bounds
  deriving DecidableEq

namespace Drawing

/-- A drawing made of given segments. -/
def ofSegments (segments : List Segment) : Drawing :=
  ⟨segments, .ofSegments segments⟩

/-- Walks a word of a grammar. -/
def ofWord (grammar : Grammar) (word : Word) (settings : Settings) : Except Fault Drawing :=
  (word.segments grammar.angle settings grammar.alphabet).map ofSegments

/-- Looks up a grammar, expands it and walks the result. The name is checked
    first, then the settings, then the count of iterations. -/
def make (name : String) (iterations : Json) (settings : Settings) (limit : Option Int) :
    Except Fault Drawing := do
  let grammar ← Catalog.grammar name
  settings.check
  let word ← grammar.expandCounted iterations limit
  ofWord grammar word settings

end Drawing

end PlantDrawing
