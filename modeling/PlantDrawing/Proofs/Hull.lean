import PlantDrawing.Bounds
import PlantDrawing.Proofs.DoubleRounding

/-!
# The hull of a drawing

Each side of the box around a drawing is found on its own (`foldl_extendSegment`): it starts
out infinitely far inside and moves to every coordinate that lies beyond it. So no coordinate
lies beyond it in the end, and it is one of them unless it never moved (`Encloses`). A
coordinate that is no number never moves a side. This leaves a side no choice but between zeros
of either sign, so the bounds of two drawings agree if they have the same segments, in whatever
order (`Bounds.sameSides_of_mem_iff`).
-/
namespace PlantDrawing

namespace Segment

/-- The first coordinates of all ends. -/
def abscissas (segments : List Segment) : List Float := segments.flatMap fun segment => [segment.x1, segment.x2]

/-- The second coordinates of all ends. -/
def ordinates (segments : List Segment) : List Float := segments.flatMap fun segment => [segment.y1, segment.y2]

end Segment

namespace Box

open Double (value lt_iff)
open Segment (abscissas ordinates)

/-- Where a side goes for a coordinate: to it if it lies beyond the side. -/
def moved (beyond : Float → Float → Prop) [DecidableRel beyond] (side x : Float) : Float :=
  if beyond x side then x else side

/-- The four sides do not depend on each other. -/
theorem foldl_extendSegment (segments : List Segment) (box : Box) :
    segments.foldl extendSegment box =
      ⟨(abscissas segments).foldl (moved (· < ·)) box.minX, (ordinates segments).foldl (moved (· < ·)) box.minY,
        (abscissas segments).foldl (moved (· > ·)) box.maxX, (ordinates segments).foldl (moved (· > ·)) box.maxY⟩ := by
  induction segments generalizing box with
  | nil => rfl
  | cons segment rest ih =>
    rw [List.foldl_cons, ih]
    rfl

/-! ## One side -/

section
variable {beyond : Float → Float → Prop} [DecidableRel beyond] {key : Float → ℚ}

/-- A double lies beyond another one if both are numbers and its key is less. -/
def Keyed (beyond : Float → Float → Prop) (key : Float → ℚ) : Prop :=
  ∀ x y, beyond x y ↔ x.isNaN = false ∧ y.isNaN = false ∧ key x < key y

theorem keyed_lt : Keyed (· < ·) value := fun _ _ => lt_iff

theorem keyed_gt : Keyed (· > ·) (fun x => -value x) := by
  intro x y
  change y < x ↔ _
  rw [lt_iff, neg_lt_neg_iff, and_left_comm]

theorem foldl_moved (keyed : Keyed beyond key) (side : Float) (number : side.isNaN = false) (coordinates : List Float) :
    (coordinates.foldl (moved beyond) side).isNaN = false ∧
      key (coordinates.foldl (moved beyond) side) ≤ key side ∧
      (∀ x ∈ coordinates, x.isNaN = false → key (coordinates.foldl (moved beyond) side) ≤ key x) ∧
      (coordinates.foldl (moved beyond) side = side ∨ coordinates.foldl (moved beyond) side ∈ coordinates) := by
  induction coordinates generalizing side with
  | nil => exact ⟨number, le_rfl, List.forall_mem_nil _, .inl rfl⟩
  | cons x rest ih =>
    rw [List.foldl_cons]
    by_cases outside : beyond x side
    · obtain ⟨xNumber, _, less⟩ := (keyed x side).mp outside
      rw [moved, if_pos outside]
      obtain ⟨outNumber, below, belowRest, found⟩ := ih x xNumber
      refine ⟨outNumber, below.trans less.le, List.forall_mem_cons.mpr ⟨fun _ => below, belowRest⟩, .inr ?_⟩
      rcases found with same | member
      · rw [same]
        exact List.mem_cons_self
      · exact List.mem_cons_of_mem x member
    · rw [moved, if_neg outside]
      obtain ⟨outNumber, below, belowRest, found⟩ := ih side number
      refine ⟨outNumber, below, List.forall_mem_cons.mpr ⟨fun xNumber => ?_, belowRest⟩,
        found.imp_right (List.mem_cons_of_mem x)⟩
      have notLess : ¬ key x < key side := fun less => outside ((keyed x side).mpr ⟨xNumber, number, less⟩)
      exact below.trans (not_lt.mp notLess)

end

/-! ## Two opposite sides -/

/-- Two sides around coordinates, as close to them as can be. -/
structure Encloses (lower upper : Float) (coordinates : List Float) : Prop where
  lowerNumber : lower.isNaN = false
  upperNumber : upper.isNaN = false
  least : ∀ x ∈ coordinates, x.isNaN = false → value lower ≤ value x
  most : ∀ x ∈ coordinates, x.isNaN = false → value x ≤ value upper
  lowerFound : lower = Double.infinity ∨ lower ∈ coordinates
  upperFound : upper = -Double.infinity ∨ upper ∈ coordinates

theorem encloses_foldl (coordinates : List Float) :
    Encloses (coordinates.foldl (moved (· < ·)) Double.infinity) (coordinates.foldl (moved (· > ·)) (-Double.infinity))
      coordinates := by
  obtain ⟨lowerNumber, -, least, lowerFound⟩ :=
    foldl_moved keyed_lt Double.infinity (by decide +kernel) coordinates
  obtain ⟨upperNumber, -, most, upperFound⟩ :=
    foldl_moved keyed_gt (-Double.infinity) (by decide +kernel) coordinates
  exact ⟨lowerNumber, upperNumber, least, fun x member number => neg_le_neg_iff.mp (most x member number), lowerFound,
    upperFound⟩

/-- Sides around more coordinates lie no further inside. -/
theorem Encloses.around {lower upper lower' upper' : Float} {coordinates more : List Float}
    (inner : Encloses lower upper coordinates) (outer : Encloses lower' upper' more)
    (fewer : ∀ x ∈ coordinates, x ∈ more) : value lower' ≤ value lower ∧ value upper ≤ value upper' := by
  constructor
  · rcases inner.lowerFound with rfl | found
    · rw [Double.value_infinity]
      exact (abs_le.mp (Double.representable_value lower').1).2
    · exact outer.least lower (fewer lower found) inner.lowerNumber
  · rcases inner.upperFound with rfl | found
    · rw [Double.value_neg_infinity]
      exact (abs_le.mp (Double.representable_value upper').1).1
    · exact outer.most upper (fewer upper found) inner.upperNumber

/-- The order of coordinates does not matter to the sides around them, nor how often each comes. -/
theorem Encloses.agree {lower upper lower' upper' : Float} {coordinates others : List Float}
    (one : Encloses lower upper coordinates) (other : Encloses lower' upper' others)
    (same : ∀ x, x ∈ coordinates ↔ x ∈ others) : (lower == lower') = true ∧ (upper == upper') = true := by
  obtain ⟨below, above⟩ := one.around other fun x => (same x).mp
  obtain ⟨below', above'⟩ := other.around one fun x => (same x).mpr
  exact ⟨Double.beq_iff.mpr ⟨one.lowerNumber, other.lowerNumber, le_antisymm below' below⟩,
    Double.beq_iff.mpr ⟨one.upperNumber, other.upperNumber, le_antisymm above above'⟩⟩

variable {segments : List Segment}

theorem encloses_abscissas :
    Encloses (segments.foldl extendSegment .void).minX (segments.foldl extendSegment .void).maxX
      (abscissas segments) := by
  rw [foldl_extendSegment]
  exact encloses_foldl (abscissas segments)

theorem encloses_ordinates :
    Encloses (segments.foldl extendSegment .void).minY (segments.foldl extendSegment .void).maxY
      (ordinates segments) := by
  rw [foldl_extendSegment]
  exact encloses_foldl (ordinates segments)

end Box

/-! ## Bounds that agree -/

namespace Bounds

theorem ofSegments_eq_empty {segments : List Segment} : ofSegments segments = .empty ↔ segments = [] := by
  cases segments with
  | nil => exact iff_of_true rfl rfl
  | cons segment rest => exact iff_of_false nofun (List.cons_ne_nil segment rest)

theorem ofSegments_eq_box {segments : List Segment} {box : Box} : ofSegments segments = .box box ↔
    segments ≠ [] ∧ segments.foldl Box.extendSegment .void = box := by
  cases segments with
  | nil => exact iff_of_false nofun fun both => both.1 rfl
  | cons segment rest =>
    change Bounds.box _ = Bounds.box box ↔ _
    rw [Bounds.box.injEq]
    exact (and_iff_right (List.cons_ne_nil segment rest)).symm

/-- Both bounds are empty, or they have numerically equal sides. -/
def SameSides : Bounds → Bounds → Prop
  | .empty, .empty => True
  | .box one, .box other =>
    (one.minX == other.minX) = true ∧ (one.minY == other.minY) = true ∧ (one.maxX == other.maxX) = true ∧
      (one.maxY == other.maxY) = true
  | _, _ => False

/-- Two drawings with the same coordinates have the same bounds. -/
theorem sameSides_of_coordinates {segments others : List Segment} (drawn : segments = [] ↔ others = [])
    (across : ∀ x, x ∈ Segment.abscissas segments ↔ x ∈ Segment.abscissas others)
    (up : ∀ y, y ∈ Segment.ordinates segments ↔ y ∈ Segment.ordinates others) :
    SameSides (ofSegments segments) (ofSegments others) := by
  cases segments with
  | nil =>
    rw [drawn.mp rfl]
    trivial
  | cons _ _ =>
    cases others with
    | nil => cases drawn.mpr rfl
    | cons _ _ =>
      obtain ⟨left, right⟩ := Box.encloses_abscissas.agree Box.encloses_abscissas across
      obtain ⟨bottom, top⟩ := Box.encloses_ordinates.agree Box.encloses_ordinates up
      exact ⟨left, bottom, right, top⟩

/-- Two drawings of the same segments have the same bounds. -/
theorem sameSides_of_mem_iff {segments others : List Segment} (same : ∀ segment, segment ∈ segments ↔ segment ∈ others) :
    SameSides (ofSegments segments) (ofSegments others) := by
  refine sameSides_of_coordinates ?_ (fun x => ?_) fun y => ?_
  · simp only [List.eq_nil_iff_forall_not_mem, same]
  · simp only [Segment.abscissas, List.mem_flatMap, same]
  · simp only [Segment.ordinates, List.mem_flatMap, same]

end Bounds

end PlantDrawing
