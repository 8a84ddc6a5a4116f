import PlantDrawing.Bounds
import PlantDrawing.Decimal
import PlantDrawing.Markup
import PlantDrawing.Settings
import PlantDrawing.SvgOptions

/-!
# SVG documents

A drawing becomes an SVG document in two steps. The first settles everything
that can fail: the drawing is turned, its box is widened by the margin, each
depth gets the width of its stroke, and the texts of the options must be strings.
The second builds the tree of elements from the result and cannot fail.

The root holds the title, a rectangle for the background, and one group of lines
for each depth, the shallowest first. A flip of the y-axis puts one more group
around these.
-/

namespace PlantDrawing

namespace SvgDocument

open Markup

/-! ## Layout -/

/-- A layer with the width of its strokes. -/
structure Band where
  layer : Layer
  strokeWidth : Float

/-- What a drawing that is not empty looks like on the page. -/
structure Layout where
  box : Box
  bands : List Band
  places : Nat

/-- The width of the strokes of a layer: faded once for each depth. -/
def band (stroke fade : Float) (layer : Layer) : Except Fault Band := do
  let factor ← (Double.power fade layer.depth).mapError .arithmetic
  .ok ⟨layer, stroke * factor⟩

/-- The bands of layers one after another. -/
def bands (stroke fade : Float) : List Layer → Except Fault (List Band)
  | [] => .ok []
  | layer :: rest => do
    let first ← band stroke fade layer
    let others ← bands stroke fade rest
    .ok (first :: others)

/-- The page for a drawing with a given box: the margin must leave it with a
    width and a height. -/
def layout (box : Box) (segments : List Segment) (options : SvgOptions) (stroke : Float) :
    Except Fault Layout := do
  let page := box.padded options.margin
  if 0 < page.width ∧ 0 < page.height then
    let places ← Decimal.checkPlaces options.precision
    let bands ← bands stroke options.fade (Layer.ofSegments segments)
    .ok ⟨page, bands, places⟩
  else .error (.config .degenerateBox)

/-! ## Strings -/

/-- What a drawing is painted with: the strings of its options. -/
structure Palette where
  background : Option String
  color : String
  linecap : String
  linejoin : String
  deriving DecidableEq

/-- A text as a string, which it must be where it is written. -/
def encode (text : Text) : Except Fault String :=
  match text.string? with
  | some content => .ok content
  | none => .error .unencodable

/-- The strings of the options. -/
def palette (options : SvgOptions) : Except Fault Palette := do
  let background ← options.background.mapM encode
  let color ← encode options.style.color
  let linecap ← encode options.style.linecap
  let linejoin ← encode options.style.linejoin
  .ok ⟨background, color, linecap, linejoin⟩

/-! ## Sizes -/

/-- The size attribute of a name, if there is a size other than zero. -/
def sizeAttribute (name : String) (size : Option Float) (precision : Int) :
    Except Fault (List Attribute) :=
  match size with
  | none => .ok []
  | some x =>
    if x == 0 then .ok []
    else do
      let printed ← Decimal.print x precision
      .ok [⟨name, printed⟩]

/-- The size attributes of the root. -/
def sizeAttributes (options : SvgOptions) : Except Fault (List Attribute) := do
  let width ← sizeAttribute "width" options.width options.precision
  let height ← sizeAttribute "height" options.height options.precision
  .ok (width ++ height)

/-! ## Elements -/

/-- The attributes that every root begins with. -/
def rootAttributes : List Attribute :=
  [⟨"xmlns", "http://www.w3.org/2000/svg"⟩, ⟨"version", "1.1"⟩]

/-- The title, unless it is empty. -/
def titleElements : Option String → List Element
  | none => []
  | some title => if title = "" then [] else [.text "title" title]

/-- Whether a background is to be painted: an empty one is not, nor one that is
    `none` in any mixture of cases. -/
def paints (background : String) : Bool :=
  background ≠ "" && background.toList.map Char.toLower ≠ "none".toList

/-- The rectangle behind the drawing, if there is a background. -/
def backgroundElements (background : Option String) (box : Box) (places : Nat) : List Element :=
  match background with
  | none => []
  | some paint =>
    if paints paint then
      [.leaf "rect"
        [⟨"x", Decimal.text box.minX places⟩, ⟨"y", Decimal.text box.minY places⟩,
          ⟨"width", Decimal.text box.width places⟩, ⟨"height", Decimal.text box.height places⟩,
          ⟨"fill", paint⟩]]
    else []

/-- The line of a segment. -/
def lineElement (places : Nat) (segment : Segment) : Element :=
  .leaf "line"
    [⟨"x1", Decimal.text segment.x1 places⟩, ⟨"y1", Decimal.text segment.y1 places⟩,
      ⟨"x2", Decimal.text segment.x2 places⟩, ⟨"y2", Decimal.text segment.y2 places⟩]

/-- The group of the lines of one depth. -/
def bandElement (palette : Palette) (places : Nat) (band : Band) : Element :=
  .group "g"
    [⟨"data-depth", toString band.layer.depth⟩, ⟨"stroke", palette.color⟩,
      ⟨"stroke-width", Decimal.text band.strokeWidth places⟩,
      ⟨"stroke-linecap", palette.linecap⟩, ⟨"stroke-linejoin", palette.linejoin⟩]
    (band.layer.segments.map (lineElement places))

/-- The groups, within one that turns the y-axis over about the middle of the box
    if the axis is to point upwards. -/
def drawingElements (flipY : Bool) (box : Box) (places : Nat) (groups : List Element) :
    List Element :=
  if flipY then
    [.group "g"
      [⟨"transform", "translate(0," ++ Decimal.text (box.minY + box.maxY) places ++ ") scale(1,-1)"⟩]
      groups]
  else groups

/-- The view box of a page. -/
def viewBox (box : Box) (places : Nat) : String :=
  Decimal.text box.minX places ++ " " ++ Decimal.text box.minY places ++ " " ++
    Decimal.text box.width places ++ " " ++ Decimal.text box.height places

/-- The root of a document without a drawing: it has no view box. -/
def emptyRoot (sizes : List Attribute) (title : Option String) : Element :=
  .group "svg" (rootAttributes ++ sizes) (titleElements title)

/-- The root of a document with a drawing. -/
def root (page : Layout) (flipY : Bool) (palette : Palette) (sizes : List Attribute)
    (title : Option String) : Element :=
  .group "svg" (rootAttributes ++ ⟨"viewBox", viewBox page.box page.places⟩ :: sizes)
    (titleElements title ++ backgroundElements palette.background page.box page.places ++
      drawingElements flipY page.box page.places
        (page.bands.map (bandElement palette page.places)))

/-- The tree of the document for a drawing. -/
def tree (segments : List Segment) (options : SvgOptions) (stroke : Float)
    (title : Option String) : Except Fault Element := do
  Settings.checkStroke stroke
  let turned ← (Segment.rotate segments options.rotation).mapError .arithmetic
  let sizes ← sizeAttributes options
  match Bounds.ofSegments turned with
  | .empty => .ok (emptyRoot sizes title)
  | .box box => do
    let page ← layout box turned options stroke
    let palette ← palette options
    .ok (root page options.flipY palette sizes title)

end SvgDocument

/-- The text of the SVG document for a drawing. A text that is no string is the last
    thing to be found out, when the document is written. -/
def svgDocument (segments : List Segment) (options : SvgOptions) (stroke : Float)
    (title : Option String) : Except Fault String :=
  (SvgDocument.tree segments options stroke title).map Markup.document

end PlantDrawing
