import PlantDrawing.Proofs.DecimalText
import PlantDrawing.Proofs.SvgContents

/-!
# The attributes of an SVG document

A statement on the numbers of a document is one on its attributes, wherever they stand
(`Element.Everywhere`). For the tree of a drawing it comes down to the attributes of the
root, of the background, of the flip and of the bands (`everywhere_root`).
-/
namespace PlantDrawing

namespace Markup

mutual

/-- The attributes of an element and of all that it holds, each with the tag it stands in. -/
def Element.marks : Element → List (String × Attribute)
  | .leaf tag attributes => attributes.map fun a => (tag, a)
  | .text _ _ => []
  | .group tag attributes children => (attributes.map fun a => (tag, a)) ++ allMarks children

/-- The attributes of several elements, one after another. -/
def allMarks : List Element → List (String × Attribute)
  | [] => []
  | element :: rest => element.marks ++ allMarks rest

end

/-- A property of every attribute of an element and of what it holds. -/
def Element.Everywhere (P : String → Attribute → Prop) (element : Element) : Prop :=
  ∀ mark ∈ element.marks, P mark.1 mark.2

variable {P : String → Attribute → Prop} {tag content : String} {attributes : List Attribute}
  {children : List Element}

theorem everywhere_leaf : (Element.leaf tag attributes).Everywhere P ↔ ∀ a ∈ attributes, P tag a := by
  rw [Element.Everywhere, Element.marks, List.forall_mem_map]

theorem everywhere_text : (Element.text tag content).Everywhere P := by
  rw [Element.Everywhere, Element.marks]
  nofun

theorem forall_allMarks : (∀ mark ∈ allMarks children, P mark.1 mark.2) ↔ ∀ child ∈ children, child.Everywhere P := by
  induction children with
  | nil => simp [allMarks]
  | cons first rest ih => rw [allMarks, List.forall_mem_append, List.forall_mem_cons, ih, Element.Everywhere]

theorem everywhere_group :
    (Element.group tag attributes children).Everywhere P ↔
      (∀ a ∈ attributes, P tag a) ∧ ∀ child ∈ children, child.Everywhere P := by
  rw [Element.Everywhere, Element.marks, List.forall_mem_append, List.forall_mem_map, forall_allMarks]

/-! ## Numbers -/

/-- The names of the attributes whose value is a number. -/
def measures : List String := ["x", "y", "width", "height", "x1", "y1", "x2", "y2", "stroke-width"]

/-- The parts of a text between its blanks. -/
def fields (text : String) : List String := (text.toList.splitOn ' ').map String.ofList

/-- What a text has between its first comma and the next bracket. -/
def shift (text : String) : String :=
  String.ofList (((text.toList.dropWhile (· ≠ ',')).drop 1).takeWhile (· ≠ ')'))

/-- The numbers in the value of an attribute: the value itself, the four numbers of a view
    box, or how far a flip moves the drawing. -/
def Attribute.numbers (a : Attribute) : List String :=
  if a.name ∈ measures then [a.value]
  else if a.name = "viewBox" then fields a.value
  else if a.name = "transform" then [shift a.value]
  else []

theorem fields_joined {first second third fourth : String} (blankless : ∀ text ∈ [first, second, third, fourth],
    ' ' ∉ text.toList) :
    fields (first ++ " " ++ second ++ " " ++ third ++ " " ++ fourth) = [first, second, third, fourth] := by
  have joined : (first ++ " " ++ second ++ " " ++ third ++ " " ++ fourth).toList =
      [' '].intercalate ([first, second, third, fourth].map String.toList) := by
    simp [String.toList_append, List.intercalate]
  have split : (([first, second, third, fourth].map String.toList).map String.ofList) =
      [first, second, third, fourth] := by
    simp
  rw [fields, joined, List.splitOn_intercalate, split]
  · rwa [List.forall_mem_map]
  · simp

theorem shift_translation {number : String} (bracketless : ')' ∉ number.toList) :
    shift ("translate(0," ++ number ++ ") scale(1,-1)") = number := by
  have dropped : ("translate(0," ++ number ++ ") scale(1,-1)").toList.dropWhile (· ≠ ',') =
      ',' :: (number.toList ++ ')' :: " scale(1,-1)".toList) := by
    rw [String.toList_append, String.toList_append]
    rfl
  have all : ∀ c ∈ number.toList, decide (c ≠ ')') = true := by
    intro c member
    rw [decide_eq_true_eq]
    rintro rfl
    exact bracketless member
  rw [shift, dropped, List.drop_one, List.tail_cons, List.takeWhile_append_of_pos all]
  simp

end Markup

open Markup

namespace SvgDocument

variable {flipY : Bool} {colors : Palette} {sizes : List Attribute} {title : Option String} {page : Layout} {box : Box}
  {places : Nat} {P : String → Attribute → Prop}

theorem textual_apart {x : Float} {places : Nat} {c : Char} (apart : ¬ Decimal.IsTextual c) :
    c ∉ (Decimal.text x places).toList :=
  fun member => apart (Decimal.isTextual_text x places c member)

theorem fields_viewBox (box : Box) (places : Nat) :
    fields (viewBox box places) = [Decimal.text box.minX places, Decimal.text box.minY places,
      Decimal.text box.width places, Decimal.text box.height places] := by
  have apart : ¬ Decimal.IsTextual ' ' := by
    unfold Decimal.IsTextual
    decide
  refine fields_joined ?_
  intro text member
  simp only [List.mem_cons, List.not_mem_nil, or_false] at member
  rcases member with rfl | rfl | rfl | rfl <;> exact textual_apart apart

/-- The attribute that turns the y-axis over. -/
def flip (box : Box) (places : Nat) : Attribute :=
  ⟨"transform", "translate(0," ++ Decimal.text (box.minY + box.maxY) places ++ ") scale(1,-1)"⟩

theorem numbers_flip (box : Box) (places : Nat) :
    (flip box places).numbers = [Decimal.text (box.minY + box.maxY) places] := by
  have apart : ¬ Decimal.IsTextual ')' := by
    unfold Decimal.IsTextual
    decide
  have numbers : (flip box places).numbers =
      [shift ("translate(0," ++ Decimal.text (box.minY + box.maxY) places ++ ") scale(1,-1)")] := rfl
  rw [numbers, shift_translation (textual_apart apart)]

theorem everywhere_titleElements : ∀ element ∈ titleElements title, element.Everywhere P := by
  rw [titleElements_eq, List.forall_mem_map]
  exact fun _ _ => everywhere_text

theorem everywhere_emptyRoot :
    (emptyRoot sizes title).Everywhere P ↔ (∀ a ∈ rootAttributes, P "svg" a) ∧ ∀ a ∈ sizes, P "svg" a := by
  rw [emptyRoot, everywhere_group, List.forall_mem_append]
  exact and_iff_left everywhere_titleElements

theorem everywhere_drawingElements {groups : List Element} :
    (∀ element ∈ drawingElements flipY box places groups, element.Everywhere P) ↔
      (flipY = true → P "g" (flip box places)) ∧ ∀ group ∈ groups, group.Everywhere P := by
  cases flipY with
  | false => simp [drawingElements]
  | true =>
    have turned : drawingElements true box places groups = [.group "g" [flip box places] groups] := rfl
    rw [turned, List.forall_mem_singleton, everywhere_group, List.forall_mem_singleton]
    simp

theorem everywhere_bandElement {band : Band} :
    (bandElement colors places band).Everywhere P ↔
      (P "g" ⟨"data-depth", toString band.layer.depth⟩ ∧ P "g" ⟨"stroke", colors.color⟩ ∧
        P "g" ⟨"stroke-width", Decimal.text band.strokeWidth places⟩ ∧ P "g" ⟨"stroke-linecap", colors.linecap⟩ ∧
        P "g" ⟨"stroke-linejoin", colors.linejoin⟩) ∧
      ∀ segment ∈ band.layer.segments, P "line" ⟨"x1", Decimal.text segment.x1 places⟩ ∧
        P "line" ⟨"y1", Decimal.text segment.y1 places⟩ ∧ P "line" ⟨"x2", Decimal.text segment.x2 places⟩ ∧
        P "line" ⟨"y2", Decimal.text segment.y2 places⟩ := by
  rw [bandElement, everywhere_group, List.forall_mem_map]
  simp only [lineElement, everywhere_leaf, List.forall_mem_cons, List.not_mem_nil, false_implies, implies_true,
    and_true]

theorem everywhere_root :
    (SvgDocument.root page flipY colors sizes title).Everywhere P ↔
      ((∀ a ∈ rootAttributes, P "svg" a) ∧ P "svg" ⟨"viewBox", viewBox page.box page.places⟩ ∧
        ∀ a ∈ sizes, P "svg" a) ∧
      (∀ paint ∈ backgroundShown colors.background,
        (∀ a ∈ backgroundSides page.box page.places, P "rect" a) ∧ P "rect" ⟨"fill", paint⟩) ∧
      (flipY = true → P "g" (flip page.box page.places)) ∧
      ∀ band ∈ page.bands, (bandElement colors page.places band).Everywhere P := by
  rw [SvgDocument.root, everywhere_group, List.forall_mem_append, List.forall_mem_cons, List.forall_mem_append,
    List.forall_mem_append, everywhere_drawingElements, backgroundElements_eq, List.forall_mem_map,
    List.forall_mem_map]
  have titles : ∀ element ∈ titleElements title, element.Everywhere P := everywhere_titleElements
  simp only [everywhere_leaf, List.forall_mem_append, List.forall_mem_singleton, and_assoc, and_iff_right titles]

end SvgDocument

end PlantDrawing
