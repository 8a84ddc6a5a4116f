import PlantDrawing.Proofs.SvgViewBox

/-!
# Strokes that can be seen

The options and the width of a stroke are checked to be above zero, but what is printed of them is
rounded: a number is printed as one above zero just if it is more than half a unit of the last place
(`Decimal.isPositive_text`). So a document shows the sizes that were asked for, and the strokes of
all depths, exactly if each of them exceeds that half unit, the strokes after they have faded
(`svgDocument_visible`).
-/
namespace PlantDrawing

open Markup

/-! ## Printed numbers above zero -/

namespace Decimal

/-- Whether a text is the numeral of a number above zero. -/
def isPositive (text : String) : Bool := (read text).any (0 < ·)

/-- What is printed of a double is a number above zero just if the double is finite and more than
    half a unit of the last place. -/
theorem isPositive_text {x : Float} {places : Nat} (useful : places ≤ usefulPlaces) :
    isPositive (text x places) = true ↔ x.isFinite = true ∧ 1 / 10 ^ places / 2 < Double.value x := by
  have scale : (0 : ℚ) < 10 ^ places := by positivity
  cases finite : x.isFinite with
  | false => simp [isPositive, read_text_eq_none finite]
  | true =>
    obtain ⟨n, near, reads⟩ := read_text finite useful
    rw [isPositive, reads, Option.any_some, decide_eq_true_eq, div_pos_iff_of_pos_right scale, Int.cast_pos,
      near.pos_iff, and_iff_right rfl, div_right_comm, div_lt_iff₀ scale]

end Decimal

namespace SvgDocument

/-- A double that can be seen where it is printed: it is more than half a unit of the last place. -/
structure Visible (options : SvgOptions) (x : Float) : Prop where
  finite : x.isFinite = true
  more : unit options / 2 < Double.value x

theorem isPositive_iff_visible {options : SvgOptions} (accepted : options.Accepted) (x : Float) :
    Decimal.isPositive (Decimal.text x options.precision.toNat) = true ↔ Visible options x := by
  rw [Decimal.isPositive_text (useful_accepted accepted)]
  exact ⟨fun both => ⟨both.1, both.2⟩, fun visible => ⟨visible.finite, visible.more⟩⟩

/-! ## The sizes of a document -/

/-- The attributes that say how large something is: the sizes of the root, and the width of a
    stroke wherever it stands. -/
def IsSize (tag name : String) : Prop :=
  tag = "svg" ∧ (name = "width" ∨ name = "height") ∨ name = "stroke-width"

instance (tag name : String) : Decidable (IsSize tag name) :=
  inferInstanceAs (Decidable (_ ∨ _))

/-- The doubles that the sizes of a document are the texts of: those of the root are the options of
    that name, and the strokes of a depth have the width of a stroke, faded once for each depth. -/
inductive Sizes (segments : List Segment) (options : SvgOptions) (stroke : Float) : String → String → Float → Prop
  | width {x : Float} (asked : options.width = some x) : Sizes segments options stroke "svg" "width" x
  | height {x : Float} (asked : options.height = some x) : Sizes segments options stroke "svg" "height" x
  | stroke {segment : Segment} {factor : Float} (drawn : segment ∈ segments)
      (faded : Double.power options.fade segment.depth = .ok factor) :
      Sizes segments options stroke "g" "stroke-width" (stroke * factor)

variable {segments turned : List Segment} {options : SvgOptions} {stroke : Float} {title : Option String}
  {attributes : List Attribute} {places : Nat} {bands : List Band} {P : String → String → String → Prop}

theorem forall_sizes {P : String → String → Float → Prop} :
    (∀ tag name x, Sizes segments options stroke tag name x → P tag name x) ↔
      (∀ x, options.width = some x → P "svg" "width" x) ∧ (∀ x, options.height = some x → P "svg" "height" x) ∧
        ∀ segment ∈ segments, ∀ factor, Double.power options.fade segment.depth = .ok factor →
          P "g" "stroke-width" (stroke * factor) := by
  constructor
  · intro all
    exact ⟨fun x asked => all _ _ x (.width asked), fun x asked => all _ _ x (.height asked),
      fun segment drawn factor faded => all _ _ _ (.stroke drawn faded)⟩
  · rintro ⟨width, height, strokes⟩ tag name x size
    cases size with
    | width asked => exact width x asked
    | height asked => exact height x asked
    | stroke drawn faded => exact strokes _ drawn _ faded

/-- The size attributes of the root are the texts of the sizes that were asked for. -/
theorem forall_sizeAttributes (accepted : options.Accepted) (sized : sizeAttributes options = .ok attributes) :
    (∀ a ∈ attributes, IsSize "svg" a.name → P "svg" a.name a.value) ↔
      (∀ x, options.width = some x → P "svg" "width" (Decimal.text x options.precision.toNat)) ∧
        ∀ x, options.height = some x → P "svg" "height" (Decimal.text x options.precision.toNat) := by
  have checked := checkPlaces_accepted accepted
  have width : IsSize "svg" "width" := by decide
  have height : IsSize "svg" "height" := by decide
  unfold sizeAttributes at sized
  rw [sizeAttribute_eq checked accepted.width, sizeAttribute_eq checked accepted.height] at sized
  cases sized
  simp only [List.forall_mem_append, Option.mem_toList, Option.map_eq_some_iff, forall_exists_index, and_imp,
    forall_apply_eq_imp_iff₂, width, height, true_imp_iff]

/-- The only size in the group of a band is the width of its strokes. -/
theorem everywhere_band_sizes (colors : Palette) (band : Band) :
    (bandElement colors places band).Everywhere (fun tag a => IsSize tag a.name → P tag a.name a.value) ↔
      P "g" "stroke-width" (Decimal.text band.strokeWidth places) := by
  have depth : ¬ IsSize "g" "data-depth" := by decide
  have color : ¬ IsSize "g" "stroke" := by decide
  have width : IsSize "g" "stroke-width" := by decide
  have linecap : ¬ IsSize "g" "stroke-linecap" := by decide
  have linejoin : ¬ IsSize "g" "stroke-linejoin" := by decide
  have x1 : ¬ IsSize "line" "x1" := by decide
  have y1 : ¬ IsSize "line" "y1" := by decide
  have x2 : ¬ IsSize "line" "x2" := by decide
  have y2 : ¬ IsSize "line" "y2" := by decide
  rw [everywhere_bandElement]
  simp only [depth, color, width, linecap, linejoin, x1, y1, x2, y2, false_imp_iff, true_imp_iff, implies_true,
    true_and, and_true]

/-- The strokes of the bands have the widths of the depths of the drawing. -/
theorem forall_strokeWidths (rotated : Segment.rotate segments options.rotation = .ok turned)
    (banded : SvgDocument.bands stroke options.fade (Layer.ofSegments turned) = .ok bands) {P : Float → Prop} :
    (∀ band ∈ bands, P band.strokeWidth) ↔
      ∀ segment ∈ segments, ∀ factor, Double.power options.fade segment.depth = .ok factor → P (stroke * factor) := by
  obtain ⟨rfl, widths⟩ := bands_eq_ok banded
  rw [List.forall_mem_map]
  constructor
  · intro all segment drawn factor faded
    obtain ⟨layer, member, same⟩ :=
      List.mem_map.mp ((Segment.mem_rotate_depths rotated).mpr ⟨segment, drawn, rfl⟩)
    have width := all layer member
    rw [same, widthAt, faded] at width
    exact width
  · intro all layer member
    obtain ⟨segment, drawn, same⟩ := (Segment.mem_rotate_depths rotated).mp (List.mem_map_of_mem member)
    obtain ⟨factor, faded, width⟩ := widths layer member
    rw [width]
    exact all segment drawn factor (same ▸ faded)

/-- The sizes in a document are the texts of its sizes, whatever is said of them. -/
theorem everywhere_sizes (accepted : options.Accepted) {whole : Element}
    (built : tree segments options stroke title = .ok whole) :
    whole.Everywhere (fun tag a => IsSize tag a.name → P tag a.name a.value) ↔
      ∀ tag name x, Sizes segments options stroke tag name x →
        P tag name (Decimal.text x options.precision.toNat) := by
  have standard : ∀ a ∈ rootAttributes, ¬ IsSize "svg" a.name := by decide
  have viewBox : ¬ IsSize "svg" "viewBox" := by decide
  have sides (box : Box) (places : Nat) : ∀ a ∈ backgroundSides box places, ¬ IsSize "rect" a.name := by
    simp only [backgroundSides, List.forall_mem_cons]
    decide
  have fill : ¬ IsSize "rect" "fill" := by decide
  have transform : ¬ IsSize "g" "transform" := by decide
  obtain ⟨turned, sizes, rotated, sized, ends⟩ := tree_eq_ok built
  rw [forall_sizes, ← and_assoc, ← forall_sizeAttributes accepted sized]
  rcases ends with ⟨empty, rfl⟩ | ⟨-, page, colors, laidOut, -, rfl⟩
  · -- Nothing is drawn, so the root has all the sizes.
    obtain rfl := (Segment.rotate_eq_nil_iff rotated).mp empty
    rw [everywhere_emptyRoot, and_iff_right (fun a member size => absurd size (standard a member))]
    simp
  · obtain ⟨checked, banded⟩ := layout_eq_ok laidOut
    obtain places : page.places = options.precision.toNat :=
      Except.ok.inj (checked.symm.trans (checkPlaces_accepted accepted))
    have strokes := forall_strokeWidths rotated banded
      (P := fun x => P "g" "stroke-width" (Decimal.text x options.precision.toNat))
    rw [everywhere_root, ← strokes, places]
    simp only [everywhere_band_sizes]
    -- The background has a width and a height too, but these are no sizes of the root.
    constructor
    · rintro ⟨⟨-, -, root⟩, -, -, strokes⟩
      exact ⟨root, strokes⟩
    · rintro ⟨root, strokes⟩
      refine ⟨⟨fun a member size => absurd size (standard a member), fun size => absurd size viewBox, root⟩,
        fun paint _ => ⟨fun a member size => absurd size (sides _ _ a member), fun size => absurd size fill⟩,
        fun _ size => absurd size transform, strokes⟩

end SvgDocument

open SvgDocument

variable {json : Json} {segments : List Segment} {options : SvgOptions} {stroke : Float} {title : Option String}
  {text : String}

/-- A size in a document is the text of a double, a width or a height as it was asked for or the
    width of a stroke as it has faded, and it is a number above zero exactly if that double is finite
    and more than half a unit of the last place. So all sizes of a document can be seen just if those
    of the root and the strokes of all depths of the drawing can. -/
theorem svgDocument_visible (parsed : SvgOptions.ofJson json = .ok options)
    (written : svgDocument segments options stroke title = .ok text) :
    ∃ whole, Markup.read text = some whole ∧
      whole.Everywhere (fun tag a => IsSize tag a.name →
        ∃ x, Sizes segments options stroke tag a.name x ∧ a.value = Decimal.text x options.precision.toNat ∧
          (Decimal.isPositive a.value = true ↔ Visible options x)) ∧
      (whole.Everywhere (fun tag a => IsSize tag a.name → Decimal.isPositive a.value = true) ↔
        ∀ tag name x, Sizes segments options stroke tag name x → Visible options x) := by
  have accepted := SvgOptions.accepted_ofJson parsed
  obtain ⟨whole, built, rfl⟩ := Outcome.map_eq_ok.mp written
  refine ⟨whole, read_document (proper_tree built), ?_, ?_⟩
  · exact (everywhere_sizes accepted built
      (P := fun tag name value => ∃ x, Sizes segments options stroke tag name x ∧
        value = Decimal.text x options.precision.toNat ∧ (Decimal.isPositive value = true ↔ Visible options x))).mpr
      fun tag name x size => ⟨x, size, rfl, isPositive_iff_visible accepted x⟩
  · rw [everywhere_sizes accepted built (P := fun _ _ value => Decimal.isPositive value = true)]
    simp only [isPositive_iff_visible accepted]

/-- A twig and a stem, of which the width of the page and the strokes can be seen. -/
theorem twigAndStem_visible :
    ∃ (options : SvgOptions) (text : String) (whole : Element), SvgOptions.ofJson unturnedOptions = .ok options ∧
      svgDocument twigAndStem options 2 none = .ok text ∧ Markup.read text = some whole ∧
      whole.Everywhere fun tag a => IsSize tag a.name → Decimal.isPositive a.value = true := by
  have parsed : SvgOptions.ofJson unturnedOptions = .ok { rotation := 0, width := some 200 } := rfl
  have possible : (svgDocument twigAndStem { rotation := 0, width := some 200 } 2 none).toBool = true := by
    decide +kernel
  obtain ⟨text, written⟩ := Outcome.exists_of_toBool possible
  obtain ⟨whole, reads, -, visible⟩ := svgDocument_visible parsed written
  refine ⟨_, text, whole, parsed, written, reads, visible.mpr (forall_sizes.mpr ⟨?_, nofun, ?_⟩)⟩
  · rintro _ ⟨⟩
    exact ⟨by decide +kernel, by decide +kernel⟩
  · intro segment drawn factor faded
    have unfaded : ∀ segment ∈ twigAndStem, Double.power 1 segment.depth = .ok 1 := by decide +kernel
    obtain rfl := Except.ok.inj ((unfaded segment drawn).symm.trans faded)
    exact ⟨by decide +kernel, by decide +kernel⟩

/-- A stroke half as wide as a unit of the last place is printed without a width. -/
theorem strokes_can_vanish :
    ¬ ∀ (json : Json) (options : SvgOptions) (segments : List Segment) (stroke : Float) (text : String)
      (whole : Element), SvgOptions.ofJson json = .ok options → 0 < stroke →
        svgDocument segments options stroke none = .ok text → Markup.read text = some whole →
        whole.Everywhere fun tag a => IsSize tag a.name → Decimal.isPositive a.value = true := by
  intro claimed
  have parsed : SvgOptions.ofJson (.obj [("precision", .int 0), ("rotate", .int 0)]) =
      .ok { precision := 0, rotation := 0 } := rfl
  have possible : (svgDocument twigAndStem { precision := 0, rotation := 0 } 0.5 none).toBool = true := by
    decide +kernel
  have printed : (SvgDocument.tree twigAndStem { precision := 0, rotation := 0 } 0.5 none).toOption.all
      (fun whole => decide (("g", ⟨"stroke-width", "0"⟩) ∈ whole.marks)) = true := by
    decide +kernel
  obtain ⟨text, written⟩ := Outcome.exists_of_toBool possible
  obtain ⟨whole, built, rfl⟩ := Outcome.map_eq_ok.mp written
  rw [built] at printed
  have positive := claimed _ _ _ _ _ whole parsed (by decide +kernel) written (read_document (proper_tree built)) _
    (of_decide_eq_true printed) (.inr rfl)
  exact absurd positive (by decide +kernel)

end PlantDrawing
