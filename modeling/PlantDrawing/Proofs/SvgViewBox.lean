import PlantDrawing.Proofs.SvgNumbers

/-!
# The view box of an SVG document

The view box is printed with the places that the coordinates are printed with, each of its
four numbers rounded on its own. So it shows the drawing but for a unit of the last place at
the far sides. With a margin of a unit at least it has a width and a height, and it shows the
whole of a drawing of moderate size (`svgDocument_viewBox`).
-/
namespace PlantDrawing

open Markup

namespace SvgDocument

open Box (Shows)
open Double (value Within Trigonometric)

/-- The unit of the last place that is printed. -/
def unit (options : SvgOptions) : ℚ := 1 / 10 ^ options.precision.toNat

/-- A size of a page as it is printed. -/
structure Sized (options : SvgOptions) (size : ℚ) : Prop where
  nonneg : 0 ≤ size
  positive : unit options ≤ value options.margin → 0 < size

/-- A coordinate of a line is printed as a number that a view box shows. -/
def Covered (unit margin left bottom width height : ℚ) (tag : String) (a : Attribute) : Prop :=
  tag = "line" →
    (a.name = "x1" ∨ a.name = "x2" →
      ∃ x, Decimal.read a.value = some x ∧ Shows unit margin left width x) ∧
    (a.name = "y1" ∨ a.name = "y2" →
      ∃ y, Decimal.read a.value = some y ∧ Shows unit margin bottom height y)

variable {segments turned : List Segment} {options : SvgOptions} {stroke : Float} {title : Option String}
  {sizes : List Attribute} {page : Layout} {colors : Palette} {box : Box} {places : Nat}
  {left bottom width height : ℚ}

/-- The coordinates of all lines are covered if those of the drawing are, along each axis. -/
theorem everywhere_covered {unit margin : ℚ} {flipY : Bool}
    (drawn : ∀ band ∈ page.bands, ∀ segment ∈ band.layer.segments, segment ∈ turned)
    (across : ∀ x ∈ Segment.abscissas turned,
      ∃ shown, Decimal.read (Decimal.text x page.places) = some shown ∧ Shows unit margin left width shown)
    (upwards : ∀ y ∈ Segment.ordinates turned,
      ∃ shown, Decimal.read (Decimal.text y page.places) = some shown ∧ Shows unit margin bottom height shown) :
    (SvgDocument.root page flipY colors sizes title).Everywhere (Covered unit margin left bottom width height) := by
  have apart (tag : String) (elsewhere : tag ≠ "line") (a : Attribute) :
      Covered unit margin left bottom width height tag a := fun line => absurd line elsewhere
  have root := apart "svg" (by decide)
  have rect := apart "rect" (by decide)
  have group := apart "g" (by decide)
  rw [everywhere_root]
  refine ⟨⟨fun a _ => root a, root _, fun a _ => root a⟩, fun paint _ => ⟨fun a _ => rect a, rect _⟩,
    fun _ => group _, fun band banded => ?_⟩
  rw [everywhere_bandElement]
  refine ⟨⟨group _, group _, group _, group _, group _⟩, fun segment inside => ?_⟩
  obtain ⟨x1, x2⟩ := Segment.mem_abscissas (drawn band banded segment inside)
  obtain ⟨y1, y2⟩ := Segment.mem_ordinates (drawn band banded segment inside)
  refine ⟨fun _ => ⟨fun _ => across _ x1, ?_⟩, fun _ => ⟨?_, fun _ => upwards _ y1⟩,
    fun _ => ⟨fun _ => across _ x2, ?_⟩, fun _ => ⟨?_, fun _ => upwards _ y2⟩⟩ <;> simp

/-- The four numbers of a view box, read back. -/
theorem fields_read (read : (fields (viewBox box places)).mapM Decimal.read = some [left, bottom, width, height]) :
    Decimal.read (Decimal.text box.minX places) = some left ∧ Decimal.read (Decimal.text box.minY places) = some bottom ∧
      Decimal.read (Decimal.text box.width places) = some width ∧
      Decimal.read (Decimal.text box.height places) = some height := by
  rw [fields_viewBox] at read
  simpa [List.mapM_cons, Option.bind_eq_some_iff] using read

theorem isFinite_of_read {x : Float} {q : ℚ} (useful : places ≤ Decimal.usefulPlaces)
    (read : Decimal.read (Decimal.text x places) = some q) : x.isFinite = true := by
  rw [← Decimal.read_text_isSome useful, read]
  rfl

theorem viewBox_notMem (value : String) (sized : sizeAttributes options = .ok sizes) :
    Attribute.mk "viewBox" value ∉ rootAttributes ++ sizes := by
  intro member
  rcases List.mem_append.mp member with standard | size
  · simp [rootAttributes] at standard
  · rcases sizeAttributes_names sized _ size with name | name <;> simp at name

theorem viewBox_of_mem {value : String} (sized : sizeAttributes options = .ok sizes)
    (member : Attribute.mk "viewBox" value ∈ rootAttributes ++ ⟨"viewBox", viewBox box places⟩ :: sizes) :
    value = viewBox box places := by
  have other := viewBox_notMem value sized
  rw [List.mem_append, not_or] at other
  rw [List.mem_append, List.mem_cons] at member
  exact (Attribute.mk.inj ((member.resolve_left other.1).resolve_right other.2)).2

/-- The sides of a page of finite measures are printed as numerals. -/
theorem viewBox_read (useful : places ≤ Decimal.usefulPlaces)
    (widthFinite : (box.padded options.margin).width.isFinite = true)
    (heightFinite : (box.padded options.margin).height.isFinite = true) :
    ∃ left bottom width height,
      (fields (viewBox (box.padded options.margin) places)).mapM Decimal.read = some [left, bottom, width, height] := by
  have read {x : Float} (finite : x.isFinite = true) : ∃ q, Decimal.read (Decimal.text x places) = some q :=
    Option.isSome_iff_exists.mp ((Decimal.read_text_isSome useful).trans finite)
  obtain ⟨-, -, -, minX, -⟩ := Box.isFinite_of_extent widthFinite
  obtain ⟨-, -, -, minY, -⟩ := Box.isFinite_of_extent heightFinite
  obtain ⟨left, leftRead⟩ := read minX
  obtain ⟨bottom, bottomRead⟩ := read minY
  obtain ⟨width, widthRead⟩ := read widthFinite
  obtain ⟨height, heightRead⟩ := read heightFinite
  have leftRead : Decimal.read (Decimal.text (box.padded options.margin).minX places) = some left := leftRead
  have bottomRead : Decimal.read (Decimal.text (box.padded options.margin).minY places) = some bottom := bottomRead
  refine ⟨left, bottom, width, height, ?_⟩
  rw [fields_viewBox]
  simp [List.mapM_cons, leftRead, bottomRead, widthRead, heightRead]

/-- A page that reads as four numbers has sizes and covers its drawing. -/
theorem layout_covered (accepted : options.Accepted) (finite : ∀ segment ∈ segments, segment.All (·.isFinite = true))
    (known : (options.rotation == 0) = true ∨ Trigonometric (Double.radians options.rotation))
    (rotated : Segment.rotate segments options.rotation = .ok turned)
    (laidOut : layout (turned.foldl Box.extendSegment .void) turned options stroke = .ok page)
    (read : (fields (viewBox page.box page.places)).mapM Decimal.read = some [left, bottom, width, height]) :
    Sized options width ∧ Sized options height ∧
      (SvgDocument.root page options.flipY colors sizes title).Everywhere
        (Covered (unit options) (value options.margin) left bottom width height) := by
  obtain ⟨checked, banded⟩ := layout_eq_ok laidOut
  obtain ⟨boxed, wide, high⟩ := layout_page laidOut
  have places : page.places = options.precision.toNat :=
    Except.ok.inj (checked.symm.trans (checkPlaces_accepted accepted))
  have useful := useful_accepted accepted
  have outwards := Double.value_nonneg accepted.margin
  obtain ⟨leftRead, bottomRead, widthRead, heightRead⟩ := fields_read read
  rw [boxed] at wide high leftRead bottomRead widthRead heightRead
  rw [places] at leftRead bottomRead widthRead heightRead
  have widthFinite := isFinite_of_read useful widthRead
  have heightFinite := isFinite_of_read useful heightRead
  have turnedFinite := turned_finite widthFinite heightFinite finite known rotated
  obtain ⟨widthNonneg, widthPositive⟩ := Box.encloses_abscissas.size_shown useful widthFinite (Double.value_pos wide) widthRead
  obtain ⟨heightNonneg, heightPositive⟩ :=
    Box.encloses_ordinates.size_shown useful heightFinite (Double.value_pos high) heightRead
  refine ⟨⟨widthNonneg, widthPositive⟩, ⟨heightNonneg, heightPositive⟩, everywhere_covered (mem_of_mem_bands banded) ?_ ?_⟩
  · intro x member
    rw [places]
    have number := Double.isNaN_of_isFinite (Segment.forall_abscissas turnedFinite x member)
    exact Box.encloses_abscissas.shows useful widthFinite outwards (Double.value_pos wide) leftRead widthRead member number
  · intro y member
    rw [places]
    have number := Double.isNaN_of_isFinite (Segment.forall_ordinates turnedFinite y member)
    exact Box.encloses_ordinates.shows useful heightFinite outwards (Double.value_pos high) bottomRead heightRead member number

/-- Whether an element has a view box of given numbers. -/
def hasViewBox (numbers : List ℚ) : Element → Bool
  | .group "svg" attributes _ =>
    attributes.any fun a => a.name = "viewBox" && (fields a.value).mapM Decimal.read = some numbers
  | _ => false

theorem exists_of_hasViewBox {numbers : List ℚ} {whole : Element} (has : hasViewBox numbers whole = true) :
    ∃ attributes children box, whole = .group "svg" attributes children ∧ ⟨"viewBox", box⟩ ∈ attributes ∧
      (fields box).mapM Decimal.read = some numbers := by
  unfold hasViewBox at has
  split at has
  · rename_i attributes children
    obtain ⟨⟨name, value⟩, member, same⟩ := List.any_eq_true.mp has
    rw [Bool.and_eq_true, decide_eq_true_eq, decide_eq_true_eq] at same
    obtain ⟨rfl, read⟩ := same
    exact ⟨attributes, children, value, rfl, member, read⟩
  · cases has

end SvgDocument

open SvgDocument
open Double (Trigonometric)

variable {json : Json} {segments : List Segment} {options : SvgOptions} {stroke : Float} {title : Option String}
  {text : String}

/-- A view box whose four numbers are plain numerals, as they are for a moderate drawing, is
    not turned inside out and shows the ends of all lines but for a unit. If the margin is a
    unit at least, it has a width and a height and shows the ends as they are. -/
theorem svgDocument_viewBox (parsed : SvgOptions.ofJson json = .ok options)
    (finite : ∀ segment ∈ segments, segment.All (·.isFinite = true))
    (turning : (options.rotation == 0) = true ∨ Trigonometric (Double.radians options.rotation))
    (written : svgDocument segments options stroke title = .ok text) :
    ∃ attributes children, Markup.read text = some (.group "svg" attributes children) ∧
      ∀ box, ⟨"viewBox", box⟩ ∈ attributes →
        (Moderate segments options → ∃ left bottom width height,
          (fields box).mapM Decimal.read = some [left, bottom, width, height]) ∧
        ∀ left bottom width height, (fields box).mapM Decimal.read = some [left, bottom, width, height] →
          Sized options width ∧ Sized options height ∧
            (Element.group "svg" attributes children).Everywhere
              (Covered (unit options) (Double.value options.margin) left bottom width height) := by
  have accepted := SvgOptions.accepted_ofJson parsed
  obtain ⟨whole, built, rfl⟩ := Outcome.map_eq_ok.mp written
  have reads := read_document (proper_tree built)
  obtain ⟨turned, sizes, rotated, sized, ends⟩ := tree_eq_ok built
  rcases ends with ⟨-, rfl⟩ | ⟨drawn, page, colors, laidOut, -, rfl⟩
  · exact ⟨_, _, reads, fun box member => absurd member (viewBox_notMem box sized)⟩
  · refine ⟨_, _, reads, fun box member => ?_⟩
    obtain rfl := viewBox_of_mem sized member
    refine ⟨fun moderate => ?_, fun left bottom width height read => ?_⟩
    · have measurable := moderate.measurable turning rotated drawn
      obtain ⟨checked, -⟩ := layout_eq_ok laidOut
      rw [(layout_page laidOut).1, Except.ok.inj (checked.symm.trans (checkPlaces_accepted accepted))]
      exact viewBox_read (useful_accepted accepted) measurable.width measurable.height
    · exact layout_covered accepted finite turning rotated laidOut read

/-- Options that round to whole numbers and leave no room around a drawing. -/
def coarseOptions : Json := .obj [("margin", .int 0), ("precision", .int 0), ("rotate", .int 0)]

/-- A line whose ends are rounded away from each other. -/
def stretched : List Segment := [⟨0.25, 0, 1.5, 10, 0⟩]

theorem coarseOptions_parsed :
    SvgOptions.ofJson coarseOptions = .ok { margin := 0, precision := 0, rotation := 0 } := rfl

theorem stretched_finite : ∀ segment ∈ stretched, segment.All (·.isFinite = true) := by decide +kernel

theorem stretched_written :
    ∃ text attributes children box,
      svgDocument stretched { margin := 0, precision := 0, rotation := 0 } 1 none = .ok text ∧
        Markup.read text = some (.group "svg" attributes children) ∧ ⟨"viewBox", box⟩ ∈ attributes ∧
          (fields box).mapM Decimal.read = some [0, 0, 1, 10] ∧
            ("line", ⟨"x2", "2"⟩) ∈ (Element.group "svg" attributes children).marks := by
  have possible : (svgDocument stretched { margin := 0, precision := 0, rotation := 0 } 1 none).toBool = true := by
    decide +kernel
  have shown : (SvgDocument.tree stretched { margin := 0, precision := 0, rotation := 0 } 1 none).toOption.all
      (fun whole => hasViewBox [0, 0, 1, 10] whole && decide (("line", ⟨"x2", "2"⟩) ∈ whole.marks)) = true := by
    decide +kernel
  obtain ⟨text, written⟩ := Outcome.exists_of_toBool possible
  obtain ⟨whole, built, rfl⟩ := Outcome.map_eq_ok.mp written
  have reads := read_document (proper_tree built)
  rw [built] at shown
  obtain ⟨has, line⟩ := Bool.and_eq_true_iff.mp shown
  obtain ⟨attributes, children, box, rfl, member, read⟩ := exists_of_hasViewBox has
  exact ⟨_, attributes, children, box, written, reads, member, read, of_decide_eq_true line⟩

/-- A line that is printed from zero to two, on a page that is one wide. -/
theorem stretched_viewBox :
    ∃ text attributes children box,
      svgDocument stretched { margin := 0, precision := 0, rotation := 0 } 1 none = .ok text ∧
        Markup.read text = some (.group "svg" attributes children) ∧ ⟨"viewBox", box⟩ ∈ attributes ∧
          (fields box).mapM Decimal.read = some [0, 0, 1, 10] ∧
            (Element.group "svg" attributes children).Everywhere (Covered 1 0 0 0 1 10) := by
  obtain ⟨text, attributes, children, box, written, reads, member, read, -⟩ := stretched_written
  obtain ⟨_, _, again, shown⟩ :=
    svgDocument_viewBox coarseOptions_parsed stretched_finite (.inl (by decide +kernel)) written
  obtain ⟨-, rfl, rfl⟩ := Element.group.inj (Option.some.inj (reads.symm.trans again))
  obtain ⟨-, -, covered⟩ := (shown box member).2 0 0 1 10 read
  have unit : unit { margin := 0, precision := 0, rotation := 0 } = 1 := by norm_num [SvgDocument.unit]
  rw [unit, Double.value_zero] at covered
  exact ⟨text, attributes, children, box, written, reads, member, read, covered⟩

/-- The view box of that line ends before the line does. -/
theorem viewBox_can_cut_off :
    ¬ ∀ (json : Json) (options : SvgOptions) (segments : List Segment) (stroke : Float) (text : String)
      (attributes : List Attribute) (children : List Element) (box : String) (left bottom width height : ℚ),
        SvgOptions.ofJson json = .ok options → (∀ segment ∈ segments, segment.All (·.isFinite = true)) →
        options.margin.isFinite = true → options.rotation.isFinite = true →
        svgDocument segments options stroke none = .ok text →
        Markup.read text = some (.group "svg" attributes children) → ⟨"viewBox", box⟩ ∈ attributes →
        (fields box).mapM Decimal.read = some [left, bottom, width, height] →
        0 < width ∧ 0 < height ∧ (Element.group "svg" attributes children).Everywhere fun tag a => tag = "line" →
          (a.name = "x1" ∨ a.name = "x2" → ∀ x, Decimal.read a.value = some x → left ≤ x ∧ x ≤ left + width) ∧
            (a.name = "y1" ∨ a.name = "y2" → ∀ y, Decimal.read a.value = some y → bottom ≤ y ∧ y ≤ bottom + height) := by
  intro claimed
  obtain ⟨text, attributes, children, box, written, reads, member, read, line⟩ := stretched_written
  obtain ⟨-, -, shown⟩ := claimed _ _ _ _ text attributes children box 0 0 1 10 coarseOptions_parsed stretched_finite
    (by decide +kernel) (by decide +kernel) written reads member read
  have two : Decimal.read "2" = some 2 := by decide +kernel
  obtain ⟨-, within⟩ := (shown _ line rfl).1 (.inr rfl) 2 two
  norm_num at within

end PlantDrawing
