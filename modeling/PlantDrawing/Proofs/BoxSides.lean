import Mathlib.Data.List.Forall2
import PlantDrawing.Proofs.Turning

/-!
# The sides of a box

Each side of the box around a drawing is an extreme of the coordinates along its axis
(`Extreme`): of those that are numbers none lies beyond it, and it is one of them, up to the
sign of a zero. If there are none, it stays at the infinity where it started. From this it
follows that the box holds all ends if they are numbers, that it is a matter of the ends alone
and not of their order, and that the box around two drawings has the outer ones of their sides.
-/
namespace PlantDrawing

namespace Segment

/-- A segment drawn from its other end. -/
def reversed (segment : Segment) : Segment := ⟨segment.x2, segment.y2, segment.x1, segment.y1, segment.depth⟩

end Segment

namespace Double

variable {x y : Float}

/-- The less of two numbers is one of them. -/
theorem min_spec (xNumber : x.isNaN = false) (yNumber : y.isNaN = false) :
    (min x y).isNaN = false ∧ value (min x y) ≤ value x ∧ value (min x y) ≤ value y ∧
      (min x y = x ∨ min x y = y) := by
  have unfolded : min x y = if x ≤ y then x else y := rfl
  by_cases ordered : x ≤ y
  · rw [unfolded, if_pos ordered]
    exact ⟨xNumber, le_rfl, (le_iff.mp ordered).2.2, .inl rfl⟩
  · rw [unfolded, if_neg ordered]
    rw [le_iff, and_iff_right xNumber, and_iff_right yNumber, not_le] at ordered
    exact ⟨yNumber, ordered.le, le_rfl, .inr rfl⟩

/-- The greater of two numbers is one of them. -/
theorem max_spec (xNumber : x.isNaN = false) (yNumber : y.isNaN = false) :
    (max x y).isNaN = false ∧ value x ≤ value (max x y) ∧ value y ≤ value (max x y) ∧
      (max x y = x ∨ max x y = y) := by
  have unfolded : max x y = if x ≤ y then y else x := rfl
  by_cases ordered : x ≤ y
  · rw [unfolded, if_pos ordered]
    exact ⟨yNumber, (le_iff.mp ordered).2.2, le_rfl, .inr rfl⟩
  · rw [unfolded, if_neg ordered]
    rw [le_iff, and_iff_right xNumber, and_iff_right yNumber, not_le] at ordered
    exact ⟨xNumber, le_rfl, ordered.le, .inl rfl⟩

end Double

namespace Box

open Double (value)
open Segment (abscissas ordinates)

/-- No coordinate that is a number lies beyond a side, and one of them is numerically the side; or
    there is no number among them, and the side is where it starts. -/
def Extreme (within : Float → Float → Prop) (start side : Float) (coordinates : List Float) : Prop :=
  (∀ x ∈ coordinates, x.isNaN = false → within side x) ∧
    ((∃ x ∈ coordinates, (x == side) = true) ∨ (∀ x ∈ coordinates, x.isNaN = true) ∧ side = start)

/-- A side is the least of the coordinates that are numbers. -/
def Least : Float → List Float → Prop := Extreme (· ≤ ·) Double.infinity

/-- A side is the greatest of the coordinates that are numbers. -/
def Greatest : Float → List Float → Prop := Extreme (· ≥ ·) (-Double.infinity)

/-- A box is the hull of a drawing. -/
structure HullOf (box : Box) (segments : List Segment) : Prop where
  minX : Least box.minX (abscissas segments)
  minY : Least box.minY (ordinates segments)
  maxX : Greatest box.maxX (abscissas segments)
  maxY : Greatest box.maxY (ordinates segments)

/-- A box holds the ends of all segments, and no smaller one does: each of its sides goes through
    one of the ends. -/
structure Fits (box : Box) (segments : List Segment) : Prop where
  holds : ∀ segment ∈ segments,
    box.contains segment.x1 segment.y1 = true ∧ box.contains segment.x2 segment.y2 = true
  left : ∃ x ∈ abscissas segments, (x == box.minX) = true
  bottom : ∃ y ∈ ordinates segments, (y == box.minY) = true
  right : ∃ x ∈ abscissas segments, (x == box.maxX) = true
  top : ∃ y ∈ ordinates segments, (y == box.maxY) = true
  wide : box.minX ≤ box.maxX
  high : box.minY ≤ box.maxY

/-- The box with the outer ones of the sides of two boxes. -/
def join (one other : Box) : Box :=
  ⟨min one.minX other.minX, min one.minY other.minY, max one.maxX other.maxX, max one.maxY other.maxY⟩

variable {segments others flipped : List Segment} {coordinates more : List Float}
  {lower upper lower' upper' start side : Float}

/-! ## Extremes -/

/-- A side that is a number is numerically one of the coordinates, unless it never moved. -/
theorem extreme_of_found {within : Float → Float → Prop}
    (reached : ∀ x ∈ coordinates, x.isNaN = false → within side x) (number : side.isNaN = false)
    (outermost : ∀ x, within start x → (x == start) = true) (found : side = start ∨ side ∈ coordinates) :
    Extreme within start side coordinates := by
  refine ⟨reached, ?_⟩
  rcases found with rfl | found
  · by_cases none : ∀ x ∈ coordinates, x.isNaN = true
    · exact .inr ⟨none, rfl⟩
    · -- A number that does not lie beyond the infinity where the side starts is that infinity.
      push Not at none
      obtain ⟨x, member, notNone⟩ := none
      exact .inl ⟨x, member, outermost x (reached x member (eq_false_of_ne_true notNone))⟩
  · exact .inl ⟨side, found, Double.beq_iff.mpr ⟨number, number, rfl⟩⟩

theorem Encloses.isLeast (around : Encloses lower upper coordinates) : Least lower coordinates := by
  refine extreme_of_found ?_ around.lowerNumber (fun x least => ?_) around.lowerFound
  · intro x member number
    exact Double.le_iff.mpr ⟨around.lowerNumber, number, around.least x member number⟩
  · obtain ⟨start, number, least⟩ := Double.le_iff.mp least
    rw [Double.value_infinity] at least
    have most := (abs_le.mp (Double.representable_value x).1).2
    exact Double.beq_iff.mpr ⟨number, start, le_antisymm most least⟩

theorem Encloses.isGreatest (around : Encloses lower upper coordinates) : Greatest upper coordinates := by
  refine extreme_of_found ?_ around.upperNumber (fun x most => ?_) around.upperFound
  · intro x member number
    exact Double.le_iff.mpr ⟨number, around.upperNumber, around.most x member number⟩
  · obtain ⟨number, start, most⟩ := Double.le_iff.mp most
    rw [Double.value_neg_infinity] at most
    have least := (abs_le.mp (Double.representable_value x).1).1
    exact Double.beq_iff.mpr ⟨number, start, le_antisymm most least⟩

theorem hullOf_foldl (segments : List Segment) : HullOf (segments.foldl extendSegment .void) segments :=
  ⟨encloses_abscissas.isLeast, encloses_ordinates.isLeast, encloses_abscissas.isGreatest, encloses_ordinates.isGreatest⟩

/-- Among numbers, of which there are some, the extremes are found. -/
theorem Extreme.found {within : Float → Float → Prop} (extreme : Extreme within start side coordinates)
    (nonempty : coordinates ≠ []) (numbers : ∀ x ∈ coordinates, x.isNaN = false) :
    ∃ x ∈ coordinates, (x == side) = true := by
  refine extreme.2.resolve_right fun none => ?_
  obtain ⟨x, member⟩ := List.exists_mem_of_ne_nil coordinates nonempty
  exact absurd (none.1 x member) (by rw [numbers x member]; decide)

/-- The hull of a drawing whose coordinates are numbers fits it. -/
theorem HullOf.fits {box : Box} (hull : HullOf box segments) (drawn : segments ≠ [])
    (numbers : ∀ segment ∈ segments, segment.All (·.isNaN = false)) : Fits box segments := by
  obtain ⟨first, member⟩ := List.exists_mem_of_ne_nil segments drawn
  have acrossNumbers := Segment.forall_abscissas numbers
  have upNumbers := Segment.forall_ordinates numbers
  have acrossSome : abscissas segments ≠ [] := List.ne_nil_of_mem (Segment.mem_abscissas member).1
  have upSome : ordinates segments ≠ [] := List.ne_nil_of_mem (Segment.mem_ordinates member).1
  have across (x : Float) (member : x ∈ abscissas segments) : box.minX ≤ x ∧ x ≤ box.maxX :=
    ⟨hull.minX.1 x member (acrossNumbers x member), hull.maxX.1 x member (acrossNumbers x member)⟩
  have up (y : Float) (member : y ∈ ordinates segments) : box.minY ≤ y ∧ y ≤ box.maxY :=
    ⟨hull.minY.1 y member (upNumbers y member), hull.maxY.1 y member (upNumbers y member)⟩
  have inside {x y : Float} (xMember : x ∈ abscissas segments) (yMember : y ∈ ordinates segments) :
      box.contains x y = true := by
    simp only [contains, Bool.and_eq_true, decide_eq_true_eq, across x xMember, up y yMember, and_self]
  have ordered {low middle high : Float} (below : low ≤ middle) (above : middle ≤ high) : low ≤ high := by
    rw [Double.le_iff] at below above ⊢
    exact ⟨below.1, above.2.1, below.2.2.trans above.2.2⟩
  refine ⟨fun segment member => ?_, hull.minX.found acrossSome acrossNumbers, hull.minY.found upSome upNumbers,
    hull.maxX.found acrossSome acrossNumbers, hull.maxY.found upSome upNumbers, ?_, ?_⟩
  · obtain ⟨x1, x2⟩ := Segment.mem_abscissas member
    obtain ⟨y1, y2⟩ := Segment.mem_ordinates member
    exact ⟨inside x1 y1, inside x2 y2⟩
  · obtain ⟨low, high⟩ := across _ (Segment.mem_abscissas member).1
    exact ordered low high
  · obtain ⟨low, high⟩ := up _ (Segment.mem_ordinates member).1
    exact ordered low high

/-! ## Two drawings -/

/-- The outer ones of the sides around two lists of coordinates are the sides around all of them. -/
theorem Encloses.join (one : Encloses lower upper coordinates) (other : Encloses lower' upper' more) :
    Encloses (min lower lower') (max upper upper') (coordinates ++ more) := by
  obtain ⟨lowerNumber, lowerOne, lowerOther, lowest⟩ := Double.min_spec one.lowerNumber other.lowerNumber
  obtain ⟨upperNumber, upperOne, upperOther, highest⟩ := Double.max_spec one.upperNumber other.upperNumber
  refine ⟨lowerNumber, upperNumber, ?_, ?_, ?_, ?_⟩
  · refine List.forall_mem_append.mpr ⟨fun x member number => ?_, fun x member number => ?_⟩
    · exact lowerOne.trans (one.least x member number)
    · exact lowerOther.trans (other.least x member number)
  · refine List.forall_mem_append.mpr ⟨fun x member number => ?_, fun x member number => ?_⟩
    · exact (one.most x member number).trans upperOne
    · exact (other.most x member number).trans upperOther
  · rcases lowest with same | same <;> rw [same]
    · exact one.lowerFound.imp_right (List.mem_append_left more)
    · exact other.lowerFound.imp_right (List.mem_append_right coordinates)
  · rcases highest with same | same <;> rw [same]
    · exact one.upperFound.imp_right (List.mem_append_left more)
    · exact other.upperFound.imp_right (List.mem_append_right coordinates)

end Box

namespace Bounds

open Segment (abscissas ordinates reversed)

variable {segments others flipped : List Segment} {box other : Box}

/-- Drawing segments from their other ends changes no coordinate. -/
theorem mem_coordinates_of_flipped
    (ends : List.Forall₂ (fun segment flip => flip = segment ∨ flip = segment.reversed) segments flipped) (x : Float) :
    (x ∈ abscissas segments ↔ x ∈ abscissas flipped) ∧ (x ∈ ordinates segments ↔ x ∈ ordinates flipped) := by
  induction ends with
  | nil => exact ⟨Iff.rfl, Iff.rfl⟩
  | cons same _ ih =>
    simp only [abscissas, ordinates, List.flatMap_cons, List.mem_append] at ih ⊢
    obtain ⟨across, up⟩ := ih
    rw [across, up]
    rcases same with rfl | rfl
    · exact ⟨Iff.rfl, Iff.rfl⟩
    · simp only [reversed, List.mem_cons, List.not_mem_nil, or_false]
      constructor <;> rw [or_comm (a := x = _)]

theorem sameSides_of_flipped
    (ends : List.Forall₂ (fun segment flip => flip = segment ∨ flip = segment.reversed) segments flipped)
    (order : flipped.Perm others) : SameSides (ofSegments segments) (ofSegments others) := by
  have coordinates := mem_coordinates_of_flipped ends
  refine sameSides_of_coordinates ?_ (fun x => ?_) fun y => ?_
  · rw [← List.length_eq_zero_iff, ← List.length_eq_zero_iff, ends.length_eq, order.length_eq]
  · rw [(coordinates x).1]
    simp only [abscissas, List.mem_flatMap, order.mem_iff]
  · rw [(coordinates y).2]
    simp only [ordinates, List.mem_flatMap, order.mem_iff]

theorem sameSides_join (boxed : ofSegments segments = .box box) (otherBoxed : ofSegments others = .box other) :
    SameSides (ofSegments (segments ++ others)) (.box (box.join other)) := by
  obtain ⟨drawn, rfl⟩ := ofSegments_eq_box.mp boxed
  obtain ⟨-, rfl⟩ := ofSegments_eq_box.mp otherBoxed
  have together : ofSegments (segments ++ others) = .box ((segments ++ others).foldl Box.extendSegment .void) :=
    ofSegments_eq_box.mpr ⟨List.append_ne_nil_of_left_ne_nil drawn others, rfl⟩
  have across (x : Float) : x ∈ abscissas (segments ++ others) ↔ x ∈ abscissas segments ++ abscissas others := by
    rw [abscissas, List.flatMap_append]
    rfl
  have up (y : Float) : y ∈ ordinates (segments ++ others) ↔ y ∈ ordinates segments ++ ordinates others := by
    rw [ordinates, List.flatMap_append]
    rfl
  obtain ⟨left, right⟩ := Box.encloses_abscissas.agree (Box.encloses_abscissas.join Box.encloses_abscissas) across
  obtain ⟨bottom, top⟩ := Box.encloses_ordinates.agree (Box.encloses_ordinates.join Box.encloses_ordinates) up
  rw [together]
  exact ⟨left, bottom, right, top⟩

/-! ## The hull -/

/-- The bounds of a drawing are its hull, and empty just for the empty drawing. If all coordinates
    are numbers, the box fits the drawing. The sides stay numerically the same whatever end each
    segment is drawn from and in whatever order they come; and those around two drawings are the
    outer ones of the sides around each. -/
theorem ofSegments_hull (segments : List Segment) :
    (ofSegments segments = .empty ↔ segments = []) ∧
      (∀ box, ofSegments segments = .box box → box.HullOf segments ∧
        ((∀ segment ∈ segments, segment.All (·.isNaN = false)) → box.Fits segments)) ∧
      (∀ flipped others,
        List.Forall₂ (fun segment flip => flip = segment ∨ flip = segment.reversed) segments flipped →
          flipped.Perm others → SameSides (ofSegments segments) (ofSegments others)) ∧
      ∀ others box other, ofSegments segments = .box box → ofSegments others = .box other →
        SameSides (ofSegments (segments ++ others)) (.box (box.join other)) := by
  refine ⟨ofSegments_eq_empty, fun box boxed => ?_, fun _ _ => sameSides_of_flipped, fun _ _ _ => sameSides_join⟩
  obtain ⟨drawn, rfl⟩ := ofSegments_eq_box.mp boxed
  exact ⟨Box.hullOf_foldl segments, (Box.hullOf_foldl segments).fits drawn⟩

/-- Two lines of which one starts at a zero with a sign. -/
def crossing : List Segment := [⟨0, -0.0, 2, 1, 0⟩, ⟨-1, 3, 0, 0, 1⟩]

theorem crossing_hull :
    ofSegments crossing = .box ⟨-1, -0.0, 2, 3⟩ ∧ (∀ segment ∈ crossing, segment.All (·.isNaN = false)) ∧
      Box.Fits ⟨-1, -0.0, 2, 3⟩ crossing ∧
      SameSides (ofSegments crossing) (ofSegments [⟨-1, 3, 0, 0, 1⟩, ⟨2, 1, 0, -0.0, 0⟩]) ∧
      SameSides (ofSegments (crossing ++ [⟨5, 0, 5, -2, 0⟩])) (.box ⟨-1, -2, 5, 3⟩) := by
  obtain ⟨-, hull, flips, joins⟩ := ofSegments_hull crossing
  have boxed : ofSegments crossing = .box ⟨-1, -0.0, 2, 3⟩ := by decide +kernel
  have numbers : ∀ segment ∈ crossing, segment.All (·.isNaN = false) := by decide +kernel
  have besideBoxed : ofSegments [⟨5, 0, 5, -2, 0⟩] = .box ⟨5, -2, 5, 0⟩ := by decide +kernel
  have joined : Box.join ⟨-1, -0.0, 2, 3⟩ ⟨5, -2, 5, 0⟩ = ⟨-1, -2, 5, 3⟩ := by decide +kernel
  refine ⟨boxed, numbers, (hull _ boxed).2 numbers, ?_, ?_⟩
  · exact flips [⟨2, 1, 0, -0.0, 0⟩, ⟨-1, 3, 0, 0, 1⟩] _ (.cons (.inr rfl) (.cons (.inl rfl) .nil)) (.swap _ _ _)
  · rw [← joined]
    exact joins _ _ _ boxed besideBoxed

end Bounds

end PlantDrawing
