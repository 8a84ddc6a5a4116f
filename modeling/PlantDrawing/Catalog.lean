import PlantDrawing.Grammar
import PlantDrawing.Settings

/-!
# The catalog

The built-in grammars of plants and curves, and the named settings to draw them
with.
-/

namespace PlantDrawing.Catalog

/-- A rule for one symbol. -/
def rule (symbol : Char) (replacement : String) : Rule :=
  ⟨[symbol], Word.ofText replacement⟩

/-- A leaning stem with twigs on twigs. -/
def plant : Grammar where
  name := "plant"
  start := Word.ofText "X"
  rules := .ofList [rule 'X' "F+[[X]-X]-F[-FX]+X", rule 'F' "FF"]
  angle := 25
  maxIterations := 6
  description := "fractal plant with a leaning stem"

/-- A dense shrub. -/
def bush : Grammar where
  name := "bush"
  start := Word.ofText "F"
  rules := .ofList [rule 'F' "FF+[+F-F-F]-[-F+F+F]"]
  angle := 22.5
  maxIterations := 4
  description := "dense shrub"

/-- A weed with alternating twigs. -/
def weed : Grammar where
  name := "weed"
  start := Word.ofText "X"
  rules := .ofList [rule 'X' "F[+X]F[-X]+X", rule 'F' "FF"]
  angle := 20
  maxIterations := 7
  description := "alternating weed"

/-- A symmetric twig. -/
def twig : Grammar where
  name := "twig"
  start := Word.ofText "F"
  rules := .ofList [rule 'F' "F[+F]F[-F]F"]
  angle := 25.7
  maxIterations := 5
  description := "symmetric twig"

/-- The curve with a triangle on each side. -/
def koch : Grammar where
  name := "koch"
  start := Word.ofText "F"
  rules := .ofList [rule 'F' "F+F--F+F"]
  angle := 60
  maxIterations := 5
  description := "Koch curve"

/-- The triangle of triangles. -/
def sierpinski : Grammar where
  name := "sierpinski"
  start := Word.ofText "F-G-G"
  rules := .ofList [rule 'F' "F-G+F+G-F", rule 'G' "GG"]
  angle := 120
  maxIterations := 6
  description := "Sierpinski triangle"

/-- The paper-folding curve. -/
def dragon : Grammar where
  name := "dragon"
  start := Word.ofText "F"
  rules := .ofList [rule 'F' "F+G", rule 'G' "F-G"]
  angle := 90
  maxIterations := 12
  description := "Heighway dragon"

/-- All built-in grammars. -/
def grammars : List Grammar :=
  [plant, bush, weed, twig, koch, sierpinski, dragon]

/-- The names of the built-in grammars in increasing order. -/
def names : List String :=
  ["bush", "dragon", "koch", "plant", "sierpinski", "twig", "weed"]

/-- The built-in grammar of a name. -/
def grammar? (name : String) : Option Grammar :=
  grammars.find? (·.name = name)

/-- The built-in grammar of a name, which must be one of `names`. -/
def grammar (name : String) : Except Fault Grammar :=
  match grammar? name with
  | some found => .ok found
  | none => .error (.unknownGrammar name names)

/-- Named settings in increasing order of their names. -/
def presets : List (String × Settings) :=
  [("default", ⟨10, 1, 1⟩), ("fine", ⟨4, 0.85, 0.5⟩), ("tapered", ⟨10, 0.7, 2⟩)]

/-- The settings of a name. -/
def preset? (name : String) : Option Settings :=
  presets.lookup name

/-- Every built-in grammar is accepted, and no two have the same name. -/
theorem table_grammars : (Grammar.table grammars).isOk = true := by decide +kernel

/-- The names are those of the grammars. -/
theorem names_perm : names.isPerm (grammars.map (·.name)) = true := by decide +kernel

end PlantDrawing.Catalog
