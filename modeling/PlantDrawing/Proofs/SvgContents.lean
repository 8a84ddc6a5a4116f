import PlantDrawing.Proofs.SvgTree

/-!
# What an SVG document holds

Read back, the text of a document is a tree with a title, a background and one group of
lines for each depth of the drawing, the shallowest first, and nothing else
(`svgDocument_contents`). No segment is lost, doubled or moved to another depth.
-/
namespace PlantDrawing

open Markup

namespace SvgDocument

/-- The line of a segment, with its coordinates as a given way of writing numbers has
    them. -/
def lineOf (number : Float → String) (segment : Segment) : Element :=
  .leaf "line" [⟨"x1", number segment.x1⟩, ⟨"y1", number segment.y1⟩, ⟨"x2", number segment.x2⟩,
    ⟨"y2", number segment.y2⟩]

/-- The group of the lines at a depth of a drawing. -/
def groupAt (number : Float → String) (width : Int → Float) (colors : Palette) (segments : List Segment)
    (depth : Int) : Element :=
  .group "g"
    [⟨"data-depth", toString depth⟩, ⟨"stroke", colors.color⟩, ⟨"stroke-width", number (width depth)⟩,
      ⟨"stroke-linecap", colors.linecap⟩, ⟨"stroke-linejoin", colors.linejoin⟩]
    ((segments.filter (·.depth = depth)).map (lineOf number))

/-- Groups as they are, or within one that turns the y-axis over. -/
def flipped (flipY : Bool) (transform : String) (groups : List Element) : List Element :=
  if flipY then [.group "g" [⟨"transform", transform⟩] groups] else groups

/-- The title of a document, unless there is none or an empty one. -/
def titleShown (title : Option String) : List String := title.toList.filter (· ≠ "")

/-- The background of a document, unless there is none, an empty one or one that is
    `none` in lower case. -/
def backgroundShown (background : Option String) : List String :=
  background.toList.filter fun paint => paint ≠ "" ∧ paint.toLower ≠ "none"

variable {segments : List Segment} {options : SvgOptions} {stroke : Float} {title : Option String}

theorem titleElements_eq : titleElements title = (titleShown title).map (.text "title") := by
  cases title with
  | none => rfl
  | some title => by_cases empty : title = "" <;> simp [titleElements, titleShown, empty]

theorem paints_eq (paint : String) : paints paint = decide (paint ≠ "" ∧ paint.toLower ≠ "none") := by
  have lower : paint.toList.map Char.toLower = "none".toList ↔ paint.toLower = "none" := by
    have mapped : paint.toLower = paint.map Char.toLower := rfl
    rw [← String.toList_inj, mapped, String.toList_map]
  rw [Bool.eq_iff_iff]
  simp only [paints, Bool.and_eq_true, decide_eq_true_eq, ne_eq, lower]

/-- The sides of the rectangle behind a drawing. -/
def backgroundSides (box : Box) (places : Nat) : List Attribute :=
  [⟨"x", Decimal.text box.minX places⟩, ⟨"y", Decimal.text box.minY places⟩,
    ⟨"width", Decimal.text box.width places⟩, ⟨"height", Decimal.text box.height places⟩]

theorem backgroundElements_eq (background : Option String) (box : Box) (places : Nat) :
    backgroundElements background box places =
      (backgroundShown background).map fun paint =>
        .leaf "rect" (backgroundSides box places ++ [⟨"fill", paint⟩]) := by
  cases background with
  | none => rfl
  | some paint =>
    by_cases painted : paint ≠ "" ∧ paint.toLower ≠ "none"
    · simp [backgroundElements, backgroundShown, paints_eq, painted, backgroundSides]
    · simp [backgroundElements, backgroundShown, paints_eq, painted]

theorem bandElements_eq {turned : List Segment} {fade : Float} {bands : List Band} {places : Nat}
    (banded : SvgDocument.bands stroke fade (Layer.ofSegments turned) = .ok bands) (colors : Palette) :
    bands.map (bandElement colors places) =
      ((Layer.ofSegments turned).map Layer.depth).map
        (groupAt (Decimal.text · places) (widthAt stroke fade) colors turned) := by
  obtain ⟨rfl, _⟩ := bands_eq_ok banded
  rw [List.map_map, List.map_map]
  refine List.map_congr_left ?_
  intro layer member
  simp only [Function.comp_apply, bandElement, groupAt, ← Layer.segments_of_mem_ofSegments member]
  rfl

end SvgDocument

open SvgDocument

variable {segments : List Segment} {options : SvgOptions} {stroke : Float} {title : Option String}

/-- The text of a document, read back. A drawing that is not empty stands behind the title
    and the background, in one group for each depth that occurs, each with the lines of its
    depth in the order of the drawing; a flip of the y-axis puts one group around these. It
    is painted with the texts of the options, which are strings then. An empty drawing leaves
    the title alone and no view box. -/
theorem svgDocument_contents {text : String} (written : svgDocument segments options stroke title = .ok text) :
    ∃ (turned : List Segment) (attributes : List Attribute),
      Segment.rotate segments options.rotation = .ok turned ∧
      turned.map Segment.depth = segments.map Segment.depth ∧
      (segments = [] →
        (∀ a ∈ attributes, a.name ≠ "viewBox") ∧
        Markup.read text = some (.group "svg" attributes ((titleShown title).map (.text "title")))) ∧
      (segments ≠ [] →
        ∃ (number : Float → String) (width : Int → Float) (depths : List Int) (sides : List Attribute)
          (shift : Float) (colors : Palette),
          options.background = colors.background.map .string ∧ options.style = colors.style ∧
          (∀ x, Decimal.print x options.precision = .ok (number x)) ∧
          (∀ depth ∈ depths, ∃ factor, Double.power options.fade depth = .ok factor ∧
            width depth = stroke * factor) ∧
          depths.Pairwise (· < ·) ∧
          (∀ depth, depth ∈ depths ↔ ∃ segment ∈ segments, segment.depth = depth) ∧
          (∃ a ∈ attributes, a.name = "viewBox") ∧
          Markup.read text = some (.group "svg" attributes
            ((titleShown title).map (.text "title") ++
              (backgroundShown colors.background).map
                (fun paint => .leaf "rect" (sides ++ [⟨"fill", paint⟩])) ++
              flipped options.flipY ("translate(0," ++ number shift ++ ") scale(1,-1)")
                (depths.map (groupAt number width colors turned))))) := by
  obtain ⟨whole, built, rfl⟩ := Outcome.map_eq_ok.mp written
  have reads := read_document (proper_tree built)
  obtain ⟨turned, sizes, rotated, sized, ends⟩ := tree_eq_ok built
  have depthsKept := Segment.rotate_depths rotated
  -- A turned drawing is empty only if the drawing is, so each end belongs to one of the cases.
  rcases ends with ⟨empty, rfl⟩ | ⟨drawn, page, colors, laidOut, encoded, rfl⟩
  · have nothing : segments = [] := (Segment.rotate_eq_nil_iff rotated).mp empty
    refine ⟨turned, rootAttributes ++ sizes, rotated, depthsKept, fun _ => ⟨?_, ?_⟩, fun some => absurd nothing some⟩
    · refine List.forall_mem_append.mpr ⟨by decide, ?_⟩
      intro a member
      rcases sizeAttributes_names sized a member with name | name <;> rw [name] <;> decide
    · rw [reads, emptyRoot, titleElements_eq]
  · have something : segments ≠ [] := fun nothing => drawn ((Segment.rotate_eq_nil_iff rotated).mpr nothing)
    obtain ⟨places, banded⟩ := layout_eq_ok laidOut
    obtain ⟨painted, styled⟩ := palette_eq_ok.mp encoded
    refine ⟨turned, rootAttributes ++ ⟨"viewBox", viewBox page.box page.places⟩ :: sizes, rotated, depthsKept,
      fun nothing => absurd nothing something, fun _ => ?_⟩
    refine ⟨(Decimal.text · page.places), widthAt stroke options.fade,
      (Layer.ofSegments turned).map Layer.depth, backgroundSides page.box page.places,
      page.box.minY + page.box.maxY, colors, painted, styled, ?_, ?_, ?_, ?_, ?_, ?_⟩
    · intro x
      rw [Decimal.print, places]
      rfl
    · rw [List.forall_mem_map]
      exact (bands_eq_ok banded).2
    · exact Layer.ofSegments_pairwise
    · exact fun depth => Segment.mem_rotate_depths rotated
    · exact ⟨⟨"viewBox", viewBox page.box page.places⟩, by simp, rfl⟩
    · rw [reads, SvgDocument.root, titleElements_eq, backgroundElements_eq, bandElements_eq banded]
      rfl

/-- A twig drawn before the stem that it leaves. -/
def twigAndStem : List Segment := [⟨0, 0, 10, 5, 1⟩, ⟨0, 0, 20, 0, 0⟩]

/-- A title and a background that look like markup stay what they are. -/
theorem twigAndStem_contents :
    ∃ (text : String) (attributes sides : List Attribute) (number : Float → String) (width : Int → Float)
      (depths : List Int) (shift : Float),
      svgDocument twigAndStem { rotation := 0, background := some "\"none\"" } 2 (some "<g> & </g>") =
        .ok text ∧
      (∀ x, Decimal.print x 3 = .ok (number x)) ∧
      depths.Pairwise (· < ·) ∧ (∀ depth, depth ∈ depths ↔ depth = 1 ∨ depth = 0) ∧
      Markup.read text = some (.group "svg" attributes
        ([.text "title" "<g> & </g>", .leaf "rect" (sides ++ [⟨"fill", "\"none\""⟩])] ++
          flipped true ("translate(0," ++ number shift ++ ") scale(1,-1)")
            (depths.map (groupAt number width ⟨some "\"none\"", "#2f5d1e", "round", "round"⟩ twigAndStem)))) := by
  have possible : (svgDocument twigAndStem { rotation := 0, background := some "\"none\"" } 2
    (some "<g> & </g>")).toBool = true := by decide +kernel
  obtain ⟨text, written⟩ := Outcome.exists_of_toBool possible
  obtain ⟨turned, attributes, rotated, _, _, drawn⟩ := svgDocument_contents written
  have unturned : Segment.rotate twigAndStem 0 = .ok twigAndStem := rfl
  obtain rfl : twigAndStem = turned := Except.ok.inj (unturned.symm.trans rotated)
  obtain ⟨number, width, depths, sides, shift, ⟨background, color, linecap, linejoin⟩, painted, styled, printed, _,
    sorted, occurring, _, reads⟩ := drawn (by decide)
  -- The palette holds the texts of the options.
  obtain rfl : background = some "\"none\"" := by
    cases background with
    | none => cases painted
    | some paint => exact congrArg some (Text.string.inj (Option.some.inj painted)).symm
  cases styled
  have titled : titleShown (some "<g> & </g>") = ["<g> & </g>"] := by decide
  have shown : backgroundShown (some "\"none\"") = ["\"none\""] := by decide +kernel
  rw [titled, shown] at reads
  refine ⟨text, attributes, sides, number, width, depths, shift, written, printed, sorted, ?_, reads⟩
  intro depth
  rw [occurring]
  simp [twigAndStem, eq_comm]

end PlantDrawing
