import PlantDrawing.Decimal
import PlantDrawing.Drawing

/-!
# Reports

The texts that are printed about grammars: the list of the built-in ones, and
the measures of one expanded word and its drawing.
-/

namespace PlantDrawing

/-- A text with blanks behind it up to a width. -/
def padded (width : Nat) (text : String) : String :=
  text ++ String.ofList (List.replicate (width - text.length) ' ')

/-- The line of a grammar in the list of all. -/
def Grammar.summary (grammar : Grammar) : String :=
  padded 12 grammar.name ++ " angle=" ++ padded 6 (Decimal.text grammar.angle 2) ++
    " max_iterations=" ++ padded 3 (toString grammar.maxIterations) ++ " " ++ grammar.description

/-- The list of the built-in grammars, by name. -/
def Catalog.listing : String :=
  (Catalog.names.filterMap Catalog.grammar?).foldl (fun text g => text ++ g.summary ++ "\n") ""

/-- The measures of a word of a grammar and of its drawing. -/
structure Report where
  grammar : String
  iterations : Nat
  angle : Float
  growth : Nat
  symbols : Nat
  segments : Nat
  /-- The number of segments at each depth, the shallowest first. -/
  depths : List (Int × Nat)
  bounds : Bounds
  deriving DecidableEq

namespace Report

/-- The measures of a word of a grammar and of its drawing. -/
def ofDrawing (grammar : Grammar) (iterations : Nat) (word : Word) (drawing : Drawing) : Report where
  grammar := grammar.name
  iterations := iterations
  angle := grammar.angle
  growth := grammar.growthFactor
  symbols := word.length
  segments := drawing.segments.length
  depths := (Layer.ofSegments drawing.segments).map fun layer => (layer.depth, layer.segments.length)
  bounds := drawing.bounds

/-- Looks up a grammar, expands it, walks the word and measures both. -/
def make (name : String) (iterations : Json) (settings : Settings) (limit : Option Int) :
    Except Fault Report := do
  let grammar ← Catalog.grammar name
  let count ← iterations.toIterations
  let word ← grammar.expand count limit
  let drawing ← Drawing.ofWord grammar word settings
  .ok (ofDrawing grammar count word drawing)

/-- The depths with their numbers of segments; a dash if there are none. -/
def depthsText (depths : List (Int × Nat)) : String :=
  if depths.isEmpty then "-"
  else " ".intercalate (depths.map fun (depth, count) => toString depth ++ ":" ++ toString count)

/-- The sides of the bounds, or a word if there are none. -/
def boundsText : Bounds → String
  | .empty => "empty"
  | .box box =>
    Decimal.text box.minX 3 ++ " " ++ Decimal.text box.minY 3 ++ " " ++
      Decimal.text box.maxX 3 ++ " " ++ Decimal.text box.maxY 3

/-- The report as lines of text. -/
def text (report : Report) : String :=
  "grammar: " ++ report.grammar ++
  "\niterations: " ++ toString report.iterations ++
  "\nangle: " ++ Decimal.text report.angle 3 ++
  "\ngrowth factor: " ++ toString report.growth ++
  "\nsymbols: " ++ toString report.symbols ++
  "\nsegments: " ++ toString report.segments ++
  "\ndepths: " ++ depthsText report.depths ++
  "\nbounds: " ++ boundsText report.bounds ++ "\n"

end Report

end PlantDrawing
