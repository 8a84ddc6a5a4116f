import PlantDrawing.Catalog
import PlantDrawing.Twister

/-!
# Random picks

A pick for a demonstration: a built-in grammar, a count of iterations that suits
it, and named settings. The same generator always gives the same picks.
-/

namespace PlantDrawing

/-- What to draw. -/
structure RandomPick where
  grammar : String
  iterations : Nat
  preset : String
  deriving DecidableEq, Repr

namespace RandomPick

/-- The most iterations that a pick of a grammar has: its own limit, and at
    least one. -/
def mostIterations (name : String) : Nat :=
  match Catalog.grammar? name with
  | some grammar => max 1 grammar.maxIterations.toNat
  | none => 1

/-- Picks a grammar, then a count of iterations from one on, then settings. -/
def choose (twister : Twister) : RandomPick × Twister :=
  let (grammar, twister) := twister.choose Catalog.names ""
  let (more, twister) := twister.below (mostIterations grammar)
  let (preset, twister) := twister.choose (Catalog.presets.map (·.1)) ""
  (⟨grammar, more + 1, preset⟩, twister)

/-- The first picks of a generator. -/
def chooseMany : (count : Nat) → Twister → List RandomPick
  | 0, _ => []
  | count + 1, twister =>
    let (pick, rest) := choose twister
    pick :: chooseMany count rest

end RandomPick

end PlantDrawing
