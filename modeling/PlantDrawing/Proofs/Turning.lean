import PlantDrawing.Proofs.DoubleSizes
import PlantDrawing.Proofs.Hull
import PlantDrawing.Proofs.SvgTree

/-!
# Turned drawings

Turning multiplies coordinates by a cosine and a sine, which are of size one at most, and
adds two products. So the coordinates of a turned drawing are numbers again, unless the
angle is none (`rotate_numbers`), and at most twice as large as before (`rotate_within`).
-/
namespace PlantDrawing

namespace Double

/-- What is known of cosines and sines: those of a finite angle lie between minus one and
    one, and what is no number has no cosine. -/
structure Trigonometric (angle : Float) : Prop where
  cosine : angle.isFinite = true → -1 ≤ angle.cos ∧ angle.cos ≤ 1
  sine : angle.isFinite = true → -1 ≤ angle.sin ∧ angle.sin ≤ 1
  noCosine : angle.isNaN = true → angle.cos.isNaN = true

variable {x y angle : Float} {n : ℤ}

theorem within_of_unit (least : -1 ≤ x) (most : x ≤ 1) : Within 0 x := by
  have minusOne : value (-1) = -1 := by decide +kernel
  rw [le_iff, minusOne] at least
  rw [le_iff, value_one] at most
  exact ⟨most.1, by rw [zpow_zero]; exact abs_le.mpr ⟨least.2.2, most.2.2⟩⟩

theorem isFinite_radians (finite : x.isFinite = true) : (radians x).isFinite = true := by
  have small : Within 0 radiansPerDegree := within_of_unit (by decide +kernel) (by decide +kernel)
  exact (isFinite_mul_unit finite small).1

end Double

namespace Segment

open Double (Within Trigonometric)

/-- A property of every coordinate of a segment. -/
def All (P : Float → Prop) (segment : Segment) : Prop :=
  P segment.x1 ∧ P segment.y1 ∧ P segment.x2 ∧ P segment.y2

instance (P : Float → Prop) [DecidablePred P] (segment : Segment) : Decidable (segment.All P) :=
  inferInstanceAs (Decidable (P segment.x1 ∧ P segment.y1 ∧ P segment.x2 ∧ P segment.y2))

variable {P Q : Float → Prop} {segments turned : List Segment} {segment : Segment} {angle cosine sine : Float} {n : ℤ}

theorem forall_abscissas (all : ∀ segment ∈ segments, segment.All P) : ∀ x ∈ abscissas segments, P x := by
  intro x member
  obtain ⟨segment, inside, member⟩ := List.mem_flatMap.mp member
  obtain ⟨first, _, second, _⟩ := all segment inside
  simp only [List.mem_cons, List.not_mem_nil, or_false] at member
  rcases member with rfl | rfl
  · exact first
  · exact second

theorem forall_ordinates (all : ∀ segment ∈ segments, segment.All P) : ∀ y ∈ ordinates segments, P y := by
  intro y member
  obtain ⟨segment, inside, member⟩ := List.mem_flatMap.mp member
  obtain ⟨_, first, _, second⟩ := all segment inside
  simp only [List.mem_cons, List.not_mem_nil, or_false] at member
  rcases member with rfl | rfl
  · exact first
  · exact second

theorem mem_abscissas (inside : segment ∈ segments) :
    segment.x1 ∈ abscissas segments ∧ segment.x2 ∈ abscissas segments :=
  ⟨List.mem_flatMap.mpr ⟨segment, inside, by simp⟩, List.mem_flatMap.mpr ⟨segment, inside, by simp⟩⟩

theorem mem_ordinates (inside : segment ∈ segments) :
    segment.y1 ∈ ordinates segments ∧ segment.y2 ∈ ordinates segments :=
  ⟨List.mem_flatMap.mpr ⟨segment, inside, by simp⟩, List.mem_flatMap.mpr ⟨segment, inside, by simp⟩⟩

/-! ## Turning -/

theorem rotate_eq_ok (rotated : rotate segments angle = .ok turned) :
    (angle == 0) = true ∧ turned = segments ∨
      (angle == 0) = false ∧ (Double.radians angle).isInf = false ∧
        turned = segments.map (Segment.turned (Double.radians angle).cos (Double.radians angle).sin) := by
  rw [rotate] at rotated
  split at rotated
  · rename_i zero
    cases rotated
    exact .inl ⟨zero, rfl⟩
  · rename_i nonzero
    obtain ⟨cosine, cosined, rotated⟩ := Outcome.bind_eq_ok.mp rotated
    obtain ⟨sine, sined, rotated⟩ := Outcome.bind_eq_ok.mp rotated
    cases rotated
    unfold Double.cosine at cosined
    unfold Double.sine at sined
    split at cosined
    · cases cosined
    · rename_i finite
      rw [if_neg finite] at sined
      cases cosined
      cases sined
      exact .inr ⟨eq_false_of_ne_true nonzero, eq_false_of_ne_true finite, rfl⟩

theorem turned_all (difference : ∀ x y, P x → P y → Q (cosine * x - sine * y))
    (sum : ∀ x y, P x → P y → Q (sine * x + cosine * y)) (all : segment.All P) :
    (segment.turned cosine sine).All Q := by
  obtain ⟨x1, y1, x2, y2⟩ := all
  exact ⟨difference _ _ x1 y1, sum _ _ x1 y1, difference _ _ x2 y2, sum _ _ x2 y2⟩

/-- A finite drawing is turned into numbers, unless it is turned by none: then nothing finite
    is left of it. -/
theorem rotate_numbers (finite : ∀ segment ∈ segments, segment.All (·.isFinite = true))
    (known : (angle == 0) = true ∨ Trigonometric (Double.radians angle))
    (rotated : rotate segments angle = .ok turned) :
    (∀ segment ∈ turned, segment.All (·.isNaN = false)) ∨ ∀ segment ∈ turned, segment.All (·.isFinite = false) := by
  rcases rotate_eq_ok rotated with ⟨_, rfl⟩ | ⟨nonzero, notInfinite, rfl⟩
  · left
    intro segment inside
    obtain ⟨x1, y1, x2, y2⟩ := finite segment inside
    exact ⟨Double.isNaN_of_isFinite x1, Double.isNaN_of_isFinite y1, Double.isNaN_of_isFinite x2,
      Double.isNaN_of_isFinite y2⟩
  · have known := known.resolve_left (by rw [nonzero]; decide)
    cases none : (Double.radians angle).isNaN with
    | false =>
      have angleFinite := Double.isFinite_of_not notInfinite none
      have cosine := Double.within_of_unit (known.cosine angleFinite).1 (known.cosine angleFinite).2
      have sine := Double.within_of_unit (known.sine angleFinite).1 (known.sine angleFinite).2
      left
      rw [List.forall_mem_map]
      intro segment inside
      refine turned_all ?_ ?_ (finite segment inside)
      · intro x y xFinite yFinite
        exact (Double.rounds_sub (Double.isFinite_unit_mul cosine xFinite).1 (Double.isFinite_unit_mul sine yFinite).1).1
      · intro x y xFinite yFinite
        exact (Double.rounds_add (Double.isFinite_unit_mul sine xFinite).1 (Double.isFinite_unit_mul cosine yFinite).1).1
    | true =>
      have noCosine := known.noCosine none
      have lost {x : Float} : ¬ ((Double.radians angle).cos * x).isFinite = true := by
        intro product
        have := Double.isNaN_of_isFinite (Double.isFinite_of_mul product).1
        rw [noCosine] at this
        cases this
      right
      rw [List.forall_mem_map]
      intro segment inside
      refine turned_all ?_ ?_ (finite segment inside)
      · intro x y _ _
        exact eq_false_of_ne_true fun both => lost (Double.isFinite_of_sub both).1
      · intro x y _ _
        exact eq_false_of_ne_true fun both => lost (Double.isFinite_of_add both).2

/-- Turning by a finite angle makes no coordinate more than twice as large. -/
theorem rotate_within (within : ∀ segment ∈ segments, segment.All (Within n))
    (known : (angle == 0) = true ∨ Trigonometric (Double.radians angle)) (finite : angle.isFinite = true)
    (least : -1074 ≤ n) (small : n < 1023) (rotated : rotate segments angle = .ok turned) :
    ∀ segment ∈ turned, segment.All (Within (n + 1)) := by
  rcases rotate_eq_ok rotated with ⟨_, rfl⟩ | ⟨nonzero, -, rfl⟩
  · intro segment inside
    obtain ⟨x1, y1, x2, y2⟩ := within segment inside
    exact ⟨x1.mono (by omega), y1.mono (by omega), x2.mono (by omega), y2.mono (by omega)⟩
  · have known := known.resolve_left (by rw [nonzero]; decide)
    have angleFinite := Double.isFinite_radians finite
    have cosine := Double.within_of_unit (known.cosine angleFinite).1 (known.cosine angleFinite).2
    have sine := Double.within_of_unit (known.sine angleFinite).1 (known.sine angleFinite).2
    rw [List.forall_mem_map]
    intro segment inside
    refine turned_all ?_ ?_ (within segment inside)
    · intro x y xWithin yWithin
      exact (cosine.unit_mul xWithin (by omega)).sub (sine.unit_mul yWithin (by omega)) least small
    · intro x y xWithin yWithin
      exact (sine.unit_mul xWithin (by omega)).add (cosine.unit_mul yWithin (by omega)) least small

end Segment

end PlantDrawing
