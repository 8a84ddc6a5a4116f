import PlantDrawing.Proofs.PageExtent
import PlantDrawing.Proofs.SvgFaults
import PlantDrawing.Proofs.SvgMarks
import PlantDrawing.Proofs.Turning
import PlantDrawing.Proofs.WholeNumbers

/-!
# The numbers of an SVG document

A number on a page is a plain numeral unless the double behind it is infinite. Options may
ask for an infinite size, and the sums that make a page can overflow, also for an infinite
margin. These are the only ways (`svgDocument_numbers`), and drawings of moderate size with
finite options take none of them (`Moderate.fits`).
-/
namespace PlantDrawing

open Markup
open Outcome (FailsWith)

/-! ## Powers -/

namespace Double

/-- What is known of the power of a base between zero and one to an exponent that is not
    negative: it lies there too. -/
def Shrinks (base : Float) (n : Int) : Prop :=
  0 < n → (base.abs == 1) = false → 0 ≤ base.abs.pow (Float.ofInt n) ∧ base.abs.pow (Float.ofInt n) ≤ 1

variable {base factor : Float} {n : Int}

theorem le_of_lt {x y : Float} (less : x < y) : x ≤ y := by
  rw [lt_iff] at less
  exact le_iff.mpr ⟨less.1, less.2.1, less.2.2.le⟩

theorem within_of_factor (least : 0 ≤ factor) (most : factor ≤ 1) : Within 0 factor := by
  have least := value_nonneg least
  rw [le_iff, value_one] at most
  exact ⟨most.1, by rw [zpow_zero]; exact abs_le.mpr ⟨by linarith, most.2.2⟩⟩

theorem ne_zero_of_positive (positive : 0 < base) : (base == 0) = false := by
  refine eq_false_of_ne_true fun same => ?_
  rw [beq_iff, value_zero] at same
  exact (value_pos positive).ne' same.2.2

/-- What is left of the definition of powers for a base that is positive and finite. -/
theorem power_of_positive (positive : 0 < base) (finite : base.isFinite = true) :
    power base n = ofInt n >>= fun exponent =>
      if n = 0 then .ok 1 else if base.abs == 1 then .ok 1 else powerOfPositive base.abs exponent := by
  have more := value_pos positive
  have number := isNaN_of_isFinite finite
  have notInfinite := isInf_of_isFinite finite
  have nonzero := ne_zero_of_positive positive
  have notNegative : ¬ base < 0 := by
    rw [lt_iff, value_zero]
    exact fun ⟨_, _, negative⟩ => absurd negative (lt_asymm more)
  unfold power
  simp only [number, notInfinite, nonzero, notNegative, Bool.false_eq_true, if_false, decide_false, Bool.false_and]
  cases ofInt n with
  | error cause => rfl
  | ok exponent =>
    refine congrArg (fun rest : Except ArithmeticFault Float => if n = 0 then .ok 1 else rest) ?_
    cases (base.abs == 1) with
    | true => rfl
    | false => exact bind_pure _

theorem powerOfPositive_of_isFinite {exponent : Float} (finite : (base.pow exponent).isFinite = true) :
    powerOfPositive base exponent = .ok (base.pow exponent) := by
  unfold powerOfPositive
  dsimp only
  rw [isInf_of_isFinite finite]
  rfl

/-- A power that shrinks is a factor of size one at most, unless its exponent is too large
    for a double. -/
theorem power_shrinks (positive : 0 < base) (most : base ≤ 1) (nonneg : 0 ≤ n) (known : Shrinks base n) :
    (∃ factor, power base n = .ok factor ∧ Within 0 factor) ∨
      power base n = .error .overflow ∧ ofInt n = .error .overflow := by
  have finite := (within_of_factor (le_of_lt positive) most).isFinite (by decide)
  have one : Within 0 1 := within_of_factor (by decide +kernel) (by decide +kernel)
  rw [power_of_positive positive finite]
  rcases ofInt_cases n with rounded | overflow
  · rw [rounded]
    left
    by_cases zero : n = 0
    · exact ⟨1, if_pos zero, one⟩
    · cases unit : base.abs == 1 with
      | true => exact ⟨1, if_neg zero, one⟩
      | false =>
        obtain ⟨least, most⟩ := known (by omega) unit
        have within := within_of_factor least most
        exact ⟨_, (if_neg zero).trans (powerOfPositive_of_isFinite (within.isFinite (by decide))), within⟩
  · rw [overflow]
    exact .inr ⟨rfl, rfl⟩

end Double

namespace Markup

/-- The numbers of an attribute are all plain numerals. -/
def Attribute.Plain (a : Attribute) : Prop := ∀ number ∈ a.numbers, (Decimal.read number).isSome = true

/-- All numbers in an element are plain numerals. -/
def Element.Plain (element : Element) : Prop := element.Everywhere fun _ a => a.Plain

end Markup

namespace SvgDocument

open Double (Within Trigonometric Shrinks)
open Segment (All)

variable {segments turned : List Segment} {options : SvgOptions} {stroke : Float} {title : Option String}
  {sizes : List Attribute} {page : Layout} {box : Box} {places : Nat} {text : String}

/-- Whether a box with the margin around it can be printed: all its measures are finite, and
    so is what a flip moves it by. -/
structure Measurable (options : SvgOptions) (box : Box) : Prop where
  width : (box.padded options.margin).width.isFinite = true
  height : (box.padded options.margin).height.isFinite = true
  flip : options.flipY = true → ((box.padded options.margin).minY + (box.padded options.margin).maxY).isFinite = true

/-- Nothing of a document is too large for a finite double. -/
structure Fits (segments : List Segment) (options : SvgOptions) : Prop where
  width : ∀ x, options.width = some x → x.isFinite = true
  height : ∀ x, options.height = some x → x.isFinite = true
  page : ∀ turned box, Segment.rotate segments options.rotation = .ok turned →
    Bounds.ofSegments turned = .box box → Measurable options box

/-- A drawing and options whose numbers are finite and stay far enough below the greatest
    double. -/
structure Moderate (segments : List Segment) (options : SvgOptions) : Prop where
  segments : ∀ segment ∈ segments, segment.All (Within 1020)
  margin : Within 1020 options.margin
  rotation : options.rotation.isFinite = true
  width : ∀ x, options.width = some x → x.isFinite = true
  height : ∀ x, options.height = some x → x.isFinite = true

theorem Moderate.measurable (moderate : Moderate segments options)
    (known : (options.rotation == 0) = true ∨ Trigonometric (Double.radians options.rotation))
    (rotated : Segment.rotate segments options.rotation = .ok turned) (drawn : turned ≠ []) :
    Measurable options (turned.foldl Box.extendSegment .void) := by
  have within := Segment.rotate_within moderate.segments known moderate.rotation (by decide) (by decide) rotated
  obtain ⟨segment, inside⟩ := List.exists_mem_of_ne_nil turned drawn
  have margin := moderate.margin.mono (by decide : (1020 : ℤ) ≤ 1020 + 1)
  obtain ⟨minX, maxX⟩ := Box.encloses_abscissas.within_sides (Segment.forall_abscissas within)
    (List.ne_nil_of_mem (Segment.mem_abscissas inside).1) (by decide)
  obtain ⟨minY, maxY⟩ := Box.encloses_ordinates.within_sides (Segment.forall_ordinates within)
    (List.ne_nil_of_mem (Segment.mem_ordinates inside).1) (by decide)
  obtain ⟨-, -, width⟩ := Box.within_extent minX maxX margin (by decide) (by decide)
  obtain ⟨bottom, top, height⟩ := Box.within_extent minY maxY margin (by decide) (by decide)
  have flip := bottom.add top (by decide) (by decide)
  exact ⟨width.isFinite (by decide), height.isFinite (by decide), fun _ => flip.isFinite (by decide)⟩

theorem Moderate.fits (moderate : Moderate segments options)
    (known : (options.rotation == 0) = true ∨ Trigonometric (Double.radians options.rotation)) :
    Fits segments options := by
  refine ⟨moderate.width, moderate.height, ?_⟩
  intro turned box rotated bounded
  obtain ⟨drawn, rfl⟩ := Bounds.ofSegments_eq_box.mp bounded
  exact moderate.measurable known rotated drawn

/-! ## Plain numerals -/

theorem plain_measure (name : String) (measure : name ∈ measures) {x : Float} (useful : places ≤ Decimal.usefulPlaces) :
    (Attribute.mk name (Decimal.text x places)).Plain ↔ x.isFinite = true := by
  have numbers : (Attribute.mk name (Decimal.text x places)).numbers = [Decimal.text x places] := if_pos measure
  rw [Attribute.Plain, numbers, List.forall_mem_singleton, Decimal.read_text_isSome useful]

theorem plain_viewBox (useful : places ≤ Decimal.usefulPlaces) :
    (Attribute.mk "viewBox" (viewBox box places)).Plain ↔ box.minX.isFinite = true ∧ box.minY.isFinite = true ∧
      box.width.isFinite = true ∧ box.height.isFinite = true := by
  have numbers : (Attribute.mk "viewBox" (viewBox box places)).numbers = fields (viewBox box places) := rfl
  rw [Attribute.Plain, numbers, fields_viewBox]
  simp only [List.forall_mem_cons, Decimal.read_text_isSome useful, List.not_mem_nil, false_implies, implies_true,
    and_true]

theorem plain_flip (useful : places ≤ Decimal.usefulPlaces) :
    (flip box places).Plain ↔ (box.minY + box.maxY).isFinite = true := by
  rw [Attribute.Plain, numbers_flip, List.forall_mem_singleton, Decimal.read_text_isSome useful]

theorem plain_other {name value : String} (other : ¬ (name ∈ measures ∨ name = "viewBox" ∨ name = "transform")) :
    (Attribute.mk name value).Plain := by
  rw [not_or, not_or] at other
  have numbers : (Attribute.mk name value).numbers = [] :=
    (if_neg other.1).trans ((if_neg other.2.1).trans (if_neg other.2.2))
  rw [Attribute.Plain, numbers]
  nofun

theorem sizeAttribute_eq {name : String} {size : Option Float} {precision : Int}
    (checked : Decimal.checkPlaces precision = .ok places) (positive : ∀ x, size = some x → 0 < x) :
    sizeAttribute name size precision = .ok (size.map fun x => ⟨name, Decimal.text x places⟩).toList := by
  cases size with
  | none => rfl
  | some x =>
    have nonzero := Double.ne_zero_of_positive (positive x rfl)
    simp only [sizeAttribute, nonzero, Decimal.print, checked]
    rfl

theorem plain_sizes (accepted : options.Accepted) (checked : Decimal.checkPlaces options.precision = .ok places)
    (useful : places ≤ Decimal.usefulPlaces) (sized : sizeAttributes options = .ok sizes) :
    (∀ a ∈ sizes, a.Plain) ↔ (∀ x, options.width = some x → x.isFinite = true) ∧
      ∀ x, options.height = some x → x.isFinite = true := by
  unfold sizeAttributes at sized
  rw [sizeAttribute_eq checked accepted.width, sizeAttribute_eq checked accepted.height] at sized
  cases sized
  rw [List.forall_mem_append]
  simp only [Option.mem_toList, Option.map_eq_some_iff, forall_exists_index, and_imp, forall_apply_eq_imp_iff₂,
    plain_measure "width" (by decide) useful, plain_measure "height" (by decide) useful]

theorem plain_bandElement (colors : Palette) (band : Band) (useful : places ≤ Decimal.usefulPlaces) :
    (bandElement colors places band).Plain ↔ band.strokeWidth.isFinite = true ∧
      ∀ segment ∈ band.layer.segments, segment.All (·.isFinite = true) := by
  have depth (value : String) : (Attribute.mk "data-depth" value).Plain := plain_other (by decide)
  have stroke (value : String) : (Attribute.mk "stroke" value).Plain := plain_other (by decide)
  have linecap (value : String) : (Attribute.mk "stroke-linecap" value).Plain := plain_other (by decide)
  have linejoin (value : String) : (Attribute.mk "stroke-linejoin" value).Plain := plain_other (by decide)
  rw [Element.Plain, everywhere_bandElement]
  simp only [depth, stroke, linecap, linejoin, plain_measure "stroke-width" (by decide) useful,
    plain_measure "x1" (by decide) useful, plain_measure "y1" (by decide) useful,
    plain_measure "x2" (by decide) useful, plain_measure "y2" (by decide) useful, true_and,
    and_true, Segment.All]

theorem plain_rootAttributes : ∀ a ∈ rootAttributes, a.Plain := by
  rw [rootAttributes]
  simp only [List.forall_mem_cons]
  exact ⟨plain_other (by decide), plain_other (by decide), List.forall_mem_nil _⟩

/-- The measures of the background are those of the view box, so it brings nothing new. -/
theorem plain_root {flipY : Bool} {colors : Palette} (useful : page.places ≤ Decimal.usefulPlaces) :
    (SvgDocument.root page flipY colors sizes title).Plain ↔
      (page.box.minX.isFinite = true ∧ page.box.minY.isFinite = true ∧ page.box.width.isFinite = true ∧
        page.box.height.isFinite = true) ∧
      (∀ a ∈ sizes, a.Plain) ∧
      (flipY = true → (page.box.minY + page.box.maxY).isFinite = true) ∧
      ∀ band ∈ page.bands, band.strokeWidth.isFinite = true ∧
        ∀ segment ∈ band.layer.segments, segment.All (·.isFinite = true) := by
  have bands (band : Band) := plain_bandElement colors band useful
  have fill (value : String) : (Attribute.mk "fill" value).Plain := plain_other (by decide)
  rw [Element.Plain, everywhere_root]
  simp only [plain_viewBox useful, plain_flip useful]
  constructor
  · rintro ⟨⟨_, box, sized⟩, _, flipped, banded⟩
    exact ⟨box, sized, flipped, fun band member => (bands band).mp (banded band member)⟩
  · rintro ⟨box, sized, flipped, banded⟩
    refine ⟨⟨plain_rootAttributes, box, sized⟩, fun paint _ => ⟨?_, fill paint⟩, flipped,
      fun band member => (bands band).mpr (banded band member)⟩
    obtain ⟨minX, minY, width, height⟩ := box
    rw [backgroundSides]
    simp only [List.forall_mem_cons, plain_measure "x" (by decide) useful,
      plain_measure "y" (by decide) useful, plain_measure "width" (by decide) useful,
      plain_measure "height" (by decide) useful]
    exact ⟨minX, minY, width, height, List.forall_mem_nil _⟩

/-! ## Documents -/

theorem checkPlaces_accepted (accepted : options.Accepted) :
    Decimal.checkPlaces options.precision = .ok options.precision.toNat := by
  obtain ⟨least, most⟩ := accepted.precision
  unfold Decimal.checkPlaces Decimal.mostPlaces
  exact if_neg (by omega)

theorem useful_accepted (accepted : options.Accepted) : options.precision.toNat ≤ Decimal.usefulPlaces := by
  obtain ⟨least, most⟩ := accepted.precision
  unfold Decimal.usefulPlaces
  omega

/-- A drawing whose page has finite measures has been turned into finite coordinates. -/
theorem turned_finite (width : ((turned.foldl Box.extendSegment .void).padded options.margin).width.isFinite = true)
    (height : ((turned.foldl Box.extendSegment .void).padded options.margin).height.isFinite = true)
    (finite : ∀ segment ∈ segments, segment.All (·.isFinite = true))
    (known : (options.rotation == 0) = true ∨ Trigonometric (Double.radians options.rotation))
    (rotated : Segment.rotate segments options.rotation = .ok turned) :
    ∀ segment ∈ turned, segment.All (·.isFinite = true) := by
  obtain ⟨minX, maxX, -⟩ := Box.isFinite_of_extent width
  obtain ⟨minY, maxY, -⟩ := Box.isFinite_of_extent height
  rcases Segment.rotate_numbers finite known rotated with numbers | infinite
  · intro segment inside
    obtain ⟨x1, y1, x2, y2⟩ := numbers segment inside
    obtain ⟨x1Member, x2Member⟩ := Segment.mem_abscissas inside
    obtain ⟨y1Member, y2Member⟩ := Segment.mem_ordinates inside
    exact ⟨Box.encloses_abscissas.isFinite_of_mem minX maxX x1Member x1,
      Box.encloses_ordinates.isFinite_of_mem minY maxY y1Member y1,
      Box.encloses_abscissas.isFinite_of_mem minX maxX x2Member x2,
      Box.encloses_ordinates.isFinite_of_mem minY maxY y2Member y2⟩
  · -- The left side is one of the coordinates, none of which is finite.
    have side := Segment.forall_abscissas infinite _ (Box.encloses_abscissas.lower_mem minX)
    rw [minX] at side
    cases side

theorem plain_emptyRoot (accepted : options.Accepted) (sized : sizeAttributes options = .ok sizes) :
    (emptyRoot sizes title).Plain ↔ (∀ x, options.width = some x → x.isFinite = true) ∧
      ∀ x, options.height = some x → x.isFinite = true := by
  rw [Element.Plain, everywhere_emptyRoot, and_iff_right plain_rootAttributes,
    plain_sizes accepted (checkPlaces_accepted accepted) (useful_accepted accepted) sized]

/-- The strokes of all bands have finite widths. -/
theorem strokeWidth_finite {fade : Float} {bands : List Band} (strokeFinite : stroke.isFinite = true)
    (banded : SvgDocument.bands stroke fade (Layer.ofSegments turned) = .ok bands) (positive : 0 < fade) (most : fade ≤ 1)
    (grown : ∀ segment ∈ turned, 0 ≤ segment.depth) (fading : ∀ segment ∈ turned, Shrinks fade segment.depth) :
    ∀ band ∈ bands, band.strokeWidth.isFinite = true := by
  obtain ⟨rfl, widths⟩ := bands_eq_ok banded
  rw [List.forall_mem_map]
  intro layer member
  obtain ⟨factor, powered, width⟩ := widths layer member
  obtain ⟨segment, inside, same⟩ := Layer.mem_ofSegments_depths.mp (List.mem_map_of_mem member)
  rw [← same] at powered
  rcases Double.power_shrinks positive most (grown segment inside) (fading segment inside) with
    ⟨_, power, within⟩ | ⟨overflow, _⟩
  · obtain rfl := Except.ok.inj (power.symm.trans powered)
    rw [width]
    exact (Double.isFinite_mul_unit strokeFinite within).1
  · rw [overflow] at powered
    cases powered

/-- Bands have their widths unless a depth is too large for a double. -/
theorem bands_overflow (stroke : Float) {fade : Float} (positive : 0 < fade) (most : fade ≤ 1)
    (grown : ∀ segment ∈ turned, 0 ≤ segment.depth) (fading : ∀ segment ∈ turned, Shrinks fade segment.depth)
    {layers : List Layer} (occurring : ∀ layer ∈ layers, ∃ segment ∈ turned, segment.depth = layer.depth) :
    FailsWith (fun fault => fault = .arithmetic .overflow ∧
      ∃ segment ∈ turned, Double.ofInt segment.depth = .error .overflow) (bands stroke fade layers) := by
  induction layers with
  | nil => exact .ok _
  | cons layer rest ih =>
    obtain ⟨⟨segment, inside, same⟩, occurringRest⟩ := List.forall_mem_cons.mp occurring
    have powerless : FailsWith (fun cause => cause = .overflow ∧ Double.ofInt segment.depth = .error .overflow)
        (Double.power fade layer.depth) := by
      rw [← same]
      intro cause failed
      rcases Double.power_shrinks positive most (grown segment inside) (fading segment inside) with
        ⟨factor, powered, -⟩ | ⟨overflow, large⟩
      · rw [powered] at failed
        cases failed
      · rw [overflow] at failed
        cases failed
        exact ⟨rfl, large⟩
    refine .bind (.bind (powerless.mapError ?_) fun factor _ => .ok _) fun first _ =>
      .bind (ih occurringRest) fun others _ => .ok _
    rintro _ ⟨rfl, large⟩
    exact ⟨rfl, segment, inside, large⟩

theorem forall_depths (rotated : Segment.rotate segments options.rotation = .ok turned) {P : Int → Prop} :
    (∀ segment ∈ turned, P segment.depth) ↔ ∀ segment ∈ segments, P segment.depth := by
  rw [← List.forall_mem_map (f := Segment.depth) (P := P), Segment.rotate_depths rotated, List.forall_mem_map]

/-- What is behind the numbers of a page that has been laid out. -/
theorem plain_root_iff (accepted : options.Accepted) (finite : ∀ segment ∈ segments, segment.All (·.isFinite = true))
    (grown : ∀ segment ∈ segments, 0 ≤ segment.depth) (strokeFinite : stroke.isFinite = true)
    (known : (options.rotation == 0) = true ∨ Trigonometric (Double.radians options.rotation))
    (fading : ∀ segment ∈ segments, Shrinks options.fade segment.depth)
    (rotated : Segment.rotate segments options.rotation = .ok turned)
    (laidOut : layout (turned.foldl Box.extendSegment .void) turned options stroke = .ok page)
    (colors : Palette) (sized : sizeAttributes options = .ok sizes) :
    (SvgDocument.root page options.flipY colors sizes title).Plain ↔
      ((∀ x, options.width = some x → x.isFinite = true) ∧ ∀ x, options.height = some x → x.isFinite = true) ∧
        Measurable options (turned.foldl Box.extendSegment .void) := by
  obtain ⟨checked, banded⟩ := layout_eq_ok laidOut
  obtain ⟨boxed, -, -⟩ := layout_page laidOut
  have useful : page.places ≤ Decimal.usefulPlaces := by
    rw [← Except.ok.inj ((checkPlaces_accepted accepted).symm.trans checked)]
    exact useful_accepted accepted
  have strokes := strokeWidth_finite strokeFinite banded accepted.fade.1 accepted.fade.2
    ((forall_depths rotated (P := (0 ≤ ·))).mpr grown) ((forall_depths rotated (P := Shrinks options.fade)).mpr fading)
  rw [plain_root useful, plain_sizes accepted checked useful sized, boxed]
  constructor
  · rintro ⟨⟨-, -, width, height⟩, sizesFinite, flipped, -⟩
    exact ⟨sizesFinite, width, height, flipped⟩
  · rintro ⟨sizesFinite, measurable⟩
    have turnedFinite := turned_finite measurable.width measurable.height finite known rotated
    obtain ⟨-, -, -, minX, -⟩ := Box.isFinite_of_extent measurable.width
    obtain ⟨-, -, -, minY, -⟩ := Box.isFinite_of_extent measurable.height
    refine ⟨⟨minX, minY, measurable.width, measurable.height⟩, sizesFinite, measurable.flip, ?_⟩
    exact fun band member => ⟨strokes band member,
      fun segment inside => turnedFinite segment (mem_of_mem_bands banded band member segment inside)⟩

end SvgDocument

open SvgDocument
open Double (Trigonometric Shrinks)

variable {json : Json} {segments : List Segment} {options : SvgOptions} {stroke : Float} {title : Option String}

/-- The numbers of a document are all plain numerals exactly if nothing in it is too large for
    a finite double, as is so for a moderate drawing. If a document does not come out, it is
    told why, unless the drawing is to be turned by no finite angle or a depth is too large
    for a double. -/
theorem svgDocument_numbers (parsed : SvgOptions.ofJson json = .ok options)
    (finite : ∀ segment ∈ segments, segment.All (·.isFinite = true)) (grown : ∀ segment ∈ segments, 0 ≤ segment.depth)
    (strokeFinite : stroke.isFinite = true)
    (turning : (options.rotation == 0) = true ∨ Trigonometric (Double.radians options.rotation))
    (fading : ∀ segment ∈ segments, Shrinks options.fade segment.depth) :
    FailsWith (fun fault => fault.Told ∨
        fault = .arithmetic .undefined ∧ options.rotation.isFinite = false ∨
        fault = .arithmetic .overflow ∧ (∃ segment ∈ segments, Double.ofInt segment.depth = .error .overflow) ∨
        fault = .unencodable ∧ ¬ ∃ colors : Palette, options.background = colors.background.map .string ∧
          options.style = colors.style)
      (svgDocument segments options stroke title) ∧
    (∀ text, svgDocument segments options stroke title = .ok text →
      ∃ whole, Markup.read text = some whole ∧ (whole.Plain ↔ Fits segments options)) ∧
    (Moderate segments options → Fits segments options) := by
  have accepted := SvgOptions.accepted_ofJson parsed
  refine ⟨?_, ?_, fun moderate => moderate.fits turning⟩
  · refine .map (tree_failsWith accepted stroke title (fun _ told => .inl told) ?_ ?_ ?_)
    · intro infinite
      refine .inr (.inl ⟨rfl, eq_false_of_ne_true fun rotationFinite => ?_⟩)
      rw [Double.isInf_of_isFinite (Double.isFinite_radians rotationFinite)] at infinite
      cases infinite
    · intro turned rotated
      have overflows := bands_overflow stroke accepted.fade.1 accepted.fade.2
        ((forall_depths rotated (P := (0 ≤ ·))).mpr grown)
        ((forall_depths rotated (P := Shrinks options.fade)).mpr fading)
        (fun layer member => Layer.mem_ofSegments_depths.mp (List.mem_map_of_mem member))
      refine overflows.mono ?_
      rintro _ ⟨rfl, segment, inside, large⟩
      obtain ⟨original, member, same⟩ := (Segment.mem_rotate_depths rotated).mp
        (Layer.mem_ofSegments_depths.mpr ⟨segment, inside, rfl⟩)
      exact .inr (.inr (.inl ⟨rfl, original, member, same ▸ large⟩))
    · exact fun stringless => .inr (.inr (.inr (palette_eq_error.mp stringless)))
  · intro text written
    obtain ⟨whole, built, rfl⟩ := Outcome.map_eq_ok.mp written
    refine ⟨whole, read_document (proper_tree built), ?_⟩
    obtain ⟨turned, sizes, rotated, sized, ends⟩ := tree_eq_ok built
    rcases ends with ⟨rfl, rfl⟩ | ⟨drawn, page, colors, laidOut, -, rfl⟩
    · rw [plain_emptyRoot accepted sized]
      constructor
      · rintro ⟨width, height⟩
        refine ⟨width, height, fun turned box again bounded => ?_⟩
        obtain rfl := Except.ok.inj (rotated.symm.trans again)
        exact absurd rfl (Bounds.ofSegments_eq_box.mp bounded).1
      · exact fun fits => ⟨fits.width, fits.height⟩
    · rw [plain_root_iff accepted finite grown strokeFinite turning fading rotated laidOut colors sized]
      constructor
      · rintro ⟨⟨width, height⟩, measurable⟩
        refine ⟨width, height, fun other box again bounded => ?_⟩
        obtain rfl := Except.ok.inj (rotated.symm.trans again)
        obtain ⟨-, rfl⟩ := Bounds.ofSegments_eq_box.mp bounded
        exact measurable
      · intro fits
        refine ⟨⟨fits.width, fits.height⟩, fits.page turned _ rotated ?_⟩
        cases turned with
        | nil => exact absurd rfl drawn
        | cons first rest => rfl

/-- Options that leave a drawing as it is and ask for a width. -/
def unturnedOptions : Json := .obj [("rotate", .int 0), ("width", .int 200)]

/-- A twig and a stem under such options are written in plain numerals. -/
theorem twigAndStem_plain :
    ∃ (options : SvgOptions) (text : String) (whole : Element), SvgOptions.ofJson unturnedOptions = .ok options ∧
      svgDocument twigAndStem options 2 none = .ok text ∧ Markup.read text = some whole ∧ whole.Plain := by
  have parsed : SvgOptions.ofJson unturnedOptions = .ok { rotation := 0, width := some 200 } := rfl
  have finite : ∀ segment ∈ twigAndStem, segment.All (·.isFinite = true) := by decide +kernel
  have grown : ∀ segment ∈ twigAndStem, 0 ≤ segment.depth := by decide
  have fading : ∀ segment ∈ twigAndStem, Shrinks 1 segment.depth := by
    intro segment _ _ faded
    have unit : (Float.abs 1 == 1) = true := by decide +kernel
    rw [unit] at faded
    cases faded
  have moderate : Moderate twigAndStem { rotation := 0, width := some 200 } := by
    refine ⟨by decide +kernel, by decide +kernel, by decide +kernel, ?_, nofun⟩
    rintro _ ⟨⟩
    decide +kernel
  have possible : (svgDocument twigAndStem { rotation := 0, width := some 200 } 2 none).toBool = true := by
    decide +kernel
  obtain ⟨text, written⟩ := Outcome.exists_of_toBool possible
  have strokeFinite : Float.isFinite 2 = true := by decide +kernel
  obtain ⟨-, printed, fits⟩ := svgDocument_numbers parsed finite grown strokeFinite (.inl (by decide +kernel)) fading
  obtain ⟨whole, reads, plain⟩ := printed text written
  exact ⟨_, text, whole, parsed, written, reads, plain.mpr (fits moderate)⟩

/-- An infinite margin is accepted, and the box that it makes is printed in words. -/
theorem numbers_can_be_infinite :
    ¬ ∀ (json : Json) (options : SvgOptions) (segments : List Segment) (stroke : Float) (text : String)
      (whole : Element), SvgOptions.ofJson json = .ok options →
        (∀ segment ∈ segments, segment.All (·.isFinite = true)) → (∀ segment ∈ segments, 0 ≤ segment.depth) →
        stroke.isFinite = true → 0 < stroke → svgDocument segments options stroke none = .ok text →
        Markup.read text = some whole → whole.Plain := by
  intro claimed
  have parsed : SvgOptions.ofJson (.obj [("rotate", .int 0), ("margin", .double Double.infinity)]) =
      .ok { rotation := 0, margin := Double.infinity } := rfl
  have finite : ∀ segment ∈ twigAndStem, segment.All (·.isFinite = true) := by decide +kernel
  have possible : (svgDocument twigAndStem { rotation := 0, margin := Double.infinity } 2 none).toBool = true := by
    decide +kernel
  obtain ⟨text, written⟩ := Outcome.exists_of_toBool possible
  obtain ⟨whole, built, rfl⟩ := Outcome.map_eq_ok.mp written
  have plain := claimed _ _ _ _ _ whole parsed finite (by decide) (by decide +kernel) (by decide +kernel) written
    (read_document (proper_tree built))
  have worded : (SvgDocument.tree twigAndStem { rotation := 0, margin := Double.infinity } 2 none).toOption.all
      (fun whole => whole.marks.all fun mark => mark.2.numbers.all fun number => (Decimal.read number).isSome) =
        false := by
    decide +kernel
  rw [built] at worded
  refine absurd worded (ne_false_of_eq_true ?_)
  exact List.all_eq_true.mpr fun mark member => List.all_eq_true.mpr (plain mark member)

end PlantDrawing
