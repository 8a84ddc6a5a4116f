import PlantDrawing.Proofs.Layers
import PlantDrawing.Proofs.MarkupReader
import PlantDrawing.Proofs.Outcome
import PlantDrawing.SvgDocument

/-!
# The tree of an SVG document

What a drawing has gone through when its document comes out: it is turned, laid out on
a page and sorted into bands, whose strokes have a width that the depth alone decides.
All tags and attributes of the tree have proper names, so its text reads back.
-/
namespace PlantDrawing

open Markup

namespace Segment

variable {segments turned : List Segment} {angle : Float}

theorem rotate_depths (rotated : rotate segments angle = .ok turned) :
    turned.map Segment.depth = segments.map Segment.depth := by
  rw [rotate] at rotated
  split at rotated
  · cases rotated
    rfl
  · obtain ⟨cosine, _, rotated⟩ := Outcome.bind_eq_ok.mp rotated
    obtain ⟨sine, _, rotated⟩ := Outcome.bind_eq_ok.mp rotated
    cases rotated
    rw [List.map_map]
    rfl

theorem rotate_eq_nil_iff (rotated : rotate segments angle = .ok turned) : turned = [] ↔ segments = [] := by
  rw [← List.map_eq_nil_iff, rotate_depths rotated, List.map_eq_nil_iff]

/-- Turning a drawing leaves it the depths it has. -/
theorem mem_rotate_depths (rotated : rotate segments angle = .ok turned) {depth : Int} :
    depth ∈ (Layer.ofSegments turned).map Layer.depth ↔ ∃ segment ∈ segments, segment.depth = depth := by
  rw [Layer.mem_ofSegments_depths, ← List.mem_map, rotate_depths rotated, List.mem_map]

end Segment

namespace SvgDocument

variable {segments : List Segment} {options : SvgOptions} {stroke : Float} {title : Option String}

/-- The width of the strokes at a depth, if it has one. -/
def widthAt (stroke fade : Float) (depth : Int) : Float :=
  stroke * (Double.power fade depth).toOption.getD 0

theorem bands_eq_ok {fade : Float} {layers : List Layer} {bands : List Band}
    (banded : SvgDocument.bands stroke fade layers = .ok bands) :
    bands = (layers.map fun layer => ⟨layer, widthAt stroke fade layer.depth⟩) ∧
      ∀ layer ∈ layers, ∃ factor, Double.power fade layer.depth = .ok factor ∧
        widthAt stroke fade layer.depth = stroke * factor := by
  induction layers generalizing bands with
  | nil =>
    cases banded
    simp
  | cons layer rest ih =>
    obtain ⟨first, firstBanded, banded⟩ := Outcome.bind_eq_ok.mp banded
    obtain ⟨others, othersBanded, banded⟩ := Outcome.bind_eq_ok.mp banded
    obtain ⟨factor, powered, firstBanded⟩ := Outcome.bind_eq_ok.mp firstBanded
    have power := Outcome.mapError_eq_ok.mp powered
    have width : widthAt stroke fade layer.depth = stroke * factor := by
      rw [widthAt, power]
      rfl
    obtain ⟨rfl, widths⟩ := ih othersBanded
    cases firstBanded
    cases banded
    exact ⟨by rw [List.map_cons, width], List.forall_mem_cons.mpr ⟨⟨factor, power, width⟩, widths⟩⟩

/-- All segments in the bands of a drawing are segments of the drawing. -/
theorem mem_of_mem_bands {fade : Float} {bands : List Band}
    (banded : SvgDocument.bands stroke fade (Layer.ofSegments segments) = .ok bands) :
    ∀ band ∈ bands, ∀ segment ∈ band.layer.segments, segment ∈ segments := by
  rw [(bands_eq_ok banded).1, List.forall_mem_map]
  intro layer member segment inside
  rw [Layer.segments_of_mem_ofSegments member] at inside
  exact (List.mem_filter.mp inside).1

theorem layout_eq_ok {box : Box} {page : Layout} (laidOut : layout box segments options stroke = .ok page) :
    Decimal.checkPlaces options.precision = .ok page.places ∧
      bands stroke options.fade (Layer.ofSegments segments) = .ok page.bands := by
  rw [layout] at laidOut
  split at laidOut
  · obtain ⟨places, checked, laidOut⟩ := Outcome.bind_eq_ok.mp laidOut
    obtain ⟨bands, banded, laidOut⟩ := Outcome.bind_eq_ok.mp laidOut
    cases laidOut
    exact ⟨checked, banded⟩
  · cases laidOut

/-- A page is the box of its drawing with the margin around it, and has a width and a
    height. -/
theorem layout_page {box : Box} {page : Layout} (laidOut : layout box segments options stroke = .ok page) :
    page.box = box.padded options.margin ∧ 0 < page.box.width ∧ 0 < page.box.height := by
  rw [layout] at laidOut
  split at laidOut
  · rename_i sized
    obtain ⟨places, _, laidOut⟩ := Outcome.bind_eq_ok.mp laidOut
    obtain ⟨bands, _, laidOut⟩ := Outcome.bind_eq_ok.mp laidOut
    cases laidOut
    exact ⟨rfl, sized⟩
  · cases laidOut

theorem sizeAttribute_names {name : String} {size : Option Float} {precision : Int}
    {attributes : List Attribute} (sized : sizeAttribute name size precision = .ok attributes) :
    ∀ a ∈ attributes, a.name = name := by
  unfold sizeAttribute at sized
  split at sized
  · cases sized
    simp
  · split at sized
    · cases sized
      simp
    · obtain ⟨printed, _, sized⟩ := Outcome.bind_eq_ok.mp sized
      cases sized
      simp

theorem sizeAttributes_names {attributes : List Attribute} (sized : sizeAttributes options = .ok attributes) :
    ∀ a ∈ attributes, a.name = "width" ∨ a.name = "height" := by
  obtain ⟨width, widthSized, sized⟩ := Outcome.bind_eq_ok.mp sized
  obtain ⟨height, heightSized, sized⟩ := Outcome.bind_eq_ok.mp sized
  cases sized
  refine List.forall_mem_append.mpr ⟨?_, ?_⟩
  · exact fun a member => .inl (sizeAttribute_names widthSized a member)
  · exact fun a member => .inr (sizeAttribute_names heightSized a member)

/-- The style whose words are the strings of a palette. -/
def Palette.style (colors : Palette) : StrokeStyle := ⟨colors.color, colors.linecap, colors.linejoin⟩

theorem encode_eq_ok {text : Text} {content : String} : encode text = .ok content ↔ text = .string content := by
  cases text with
  | string content => simp [encode, Text.string?]
  | broken points stray => simp [encode, Text.string?]

theorem mapM_encode_eq_ok {text : Option Text} {content : Option String} :
    text.mapM encode = .ok content ↔ text = content.map .string := by
  cases text with
  | none => cases content <;> simp [pure, Except.pure]
  | some text =>
    rw [Option.mapM_some]
    change (encode text).map some = _ ↔ _
    rw [Outcome.map_eq_ok]
    simp only [encode_eq_ok]
    cases content <;> simp

/-- Options have a palette if all their texts are strings: these. -/
theorem palette_eq_ok {colors : Palette} : palette options = .ok colors ↔
    options.background = colors.background.map .string ∧ options.style = colors.style := by
  obtain ⟨background, color, linecap, linejoin⟩ := colors
  simp only [palette, Outcome.bind_eq_ok, mapM_encode_eq_ok, encode_eq_ok, Palette.style, Except.ok.injEq,
    Palette.mk.injEq]
  constructor
  · rintro ⟨_, painted, _, stroked, _, capped, _, joined, rfl, rfl, rfl, rfl⟩
    exact ⟨painted, by rw [← stroked, ← capped, ← joined]⟩
  · rintro ⟨painted, styled⟩
    exact ⟨_, painted, _, by rw [styled], _, by rw [styled], _, by rw [styled], rfl, rfl, rfl, rfl⟩

/-- What is behind a tree: the drawing is turned, and what is left of it is empty or has
    been laid out on a page. -/
theorem tree_eq_ok {whole : Element} (built : tree segments options stroke title = .ok whole) :
    ∃ turned sizes, Segment.rotate segments options.rotation = .ok turned ∧
      sizeAttributes options = .ok sizes ∧
      (turned = [] ∧ whole = emptyRoot sizes title ∨
        turned ≠ [] ∧ ∃ page colors, layout (turned.foldl Box.extendSegment .void) turned options stroke = .ok page ∧
          palette options = .ok colors ∧ whole = root page options.flipY colors sizes title) := by
  obtain ⟨_, _, built⟩ := Outcome.bind_eq_ok.mp built
  obtain ⟨turned, rotated, built⟩ := Outcome.bind_eq_ok.mp built
  obtain ⟨sizes, sized, built⟩ := Outcome.bind_eq_ok.mp built
  refine ⟨turned, sizes, Outcome.mapError_eq_ok.mp rotated, sized, ?_⟩
  cases turned with
  | nil =>
    cases built
    exact .inl ⟨rfl, rfl⟩
  | cons first rest =>
    obtain ⟨page, laidOut, built⟩ := Outcome.bind_eq_ok.mp built
    obtain ⟨colors, encoded, built⟩ := Outcome.bind_eq_ok.mp built
    cases built
    exact .inr ⟨by simp, page, colors, laidOut, encoded, rfl⟩

/-! ## Proper names -/

theorem proper_titleElements : ∀ element ∈ titleElements title, element.Proper := by
  intro element member
  unfold titleElements at member
  split at member
  · cases member
  · split at member
    · cases member
    · obtain rfl := List.mem_singleton.mp member
      exact .text (by decide)

theorem proper_backgroundElements {background : Option String} {box : Box} {places : Nat} :
    ∀ element ∈ backgroundElements background box places, element.Proper := by
  intro element member
  unfold backgroundElements at member
  split at member
  · cases member
  · split at member
    · obtain rfl := List.mem_singleton.mp member
      refine .leaf (by decide) ?_
      simp only [List.forall_mem_cons]
      decide
    · cases member

theorem proper_bandElement (colors : Palette) (places : Nat) (band : Band) :
    (bandElement colors places band).Proper := by
  refine .group (by decide) ?_ (.inl (by simp)) ?_
  · simp only [List.forall_mem_cons]
    decide
  · rw [List.forall_mem_map]
    intro segment _
    refine .leaf (by decide) ?_
    simp only [List.forall_mem_cons]
    decide

theorem proper_drawingElements {flipY : Bool} {box : Box} {places : Nat} {groups : List Element}
    (proper : ∀ group ∈ groups, group.Proper) :
    ∀ element ∈ drawingElements flipY box places groups, element.Proper := by
  cases flipY with
  | false => exact proper
  | true =>
    intro element member
    obtain rfl := List.mem_singleton.mp member
    refine .group (by decide) ?_ (.inl (by simp)) proper
    simp only [List.forall_mem_cons]
    decide

/-- The tree of a document can be told from its text. -/
theorem proper_tree {whole : Element} (built : tree segments options stroke title = .ok whole) :
    whole.Proper := by
  obtain ⟨turned, sizes, _, sized, ends⟩ := tree_eq_ok built
  have sizesNamed : ∀ a ∈ sizes, IsName a.name := by
    intro a member
    rcases sizeAttributes_names sized a member with name | name <;> rw [name] <;> decide
  have rootNamed : ∀ a ∈ rootAttributes, IsName a.name := by decide
  rcases ends with ⟨_, rfl⟩ | ⟨_, page, colors, _, _, rfl⟩
  · refine .group (by decide) ?_ (.inl (by simp [rootAttributes])) proper_titleElements
    exact List.forall_mem_append.mpr ⟨rootNamed, sizesNamed⟩
  · refine .group (by decide) ?_ (.inl (by simp [rootAttributes])) ?_
    · have viewBoxNamed : IsName "viewBox" := by decide
      exact List.forall_mem_append.mpr ⟨rootNamed, List.forall_mem_cons.mpr ⟨viewBoxNamed, sizesNamed⟩⟩
    · simp only [List.forall_mem_append]
      refine ⟨⟨proper_titleElements, proper_backgroundElements⟩, proper_drawingElements ?_⟩
      rw [List.forall_mem_map]
      exact fun band _ => proper_bandElement colors page.places band

end SvgDocument

end PlantDrawing
