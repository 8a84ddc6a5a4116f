import PlantDrawing.Proofs.DecimalText
import PlantDrawing.Proofs.DoubleSizes
import PlantDrawing.Proofs.Hull

/-!
# The extent of a page

Along each axis a page starts at the lowest side of the drawing less the margin and ends at
the highest one plus the margin. Start and size are doubles, rounded once more when they are
printed. What is printed of a coordinate never lies before the start, and behind the end by
no more than the roundings of the two and of the coordinate itself can make out. A margin of
a unit makes up for these roundings, as long as the page is of moderate size
(`Encloses.shows`).
-/
namespace PlantDrawing.Box

open Double (value Within isFinite_iff lt_iff)

/-- The size of a page along an axis. -/
def extent (lower upper margin : Float) : Float := (upper + margin) - (lower - margin)

variable {lower upper margin : Float} {coordinates : List Float} {places : Nat} {n : ℤ}

/-- An extent is finite only if everything is that it is made of. -/
theorem isFinite_of_extent (finite : (extent lower upper margin).isFinite = true) :
    lower.isFinite = true ∧ upper.isFinite = true ∧ margin.isFinite = true ∧
      (lower - margin).isFinite = true ∧ (upper + margin).isFinite = true := by
  obtain ⟨ending, start⟩ := Double.isFinite_of_sub finite
  obtain ⟨upperFinite, marginFinite⟩ := Double.isFinite_of_add ending
  exact ⟨(Double.isFinite_of_sub start).1, upperFinite, marginFinite, start, ending⟩

/-- The page is around the drawing. -/
theorem extent_around (finite : (extent lower upper margin).isFinite = true) (outwards : 0 ≤ value margin) :
    value (lower - margin) ≤ value lower ∧ value upper ≤ value (upper + margin) := by
  obtain ⟨lowerFinite, upperFinite, marginFinite, -, -⟩ := isFinite_of_extent finite
  constructor
  · exact (Double.rounds_sub lowerFinite marginFinite).2.le_of_le (Double.representable_value lower) (by linarith)
  · exact (Double.rounds_add upperFinite marginFinite).2.ge_of_ge (Double.representable_value upper) (by linarith)

/-- The size of a page is the distance of its ends, but for one rounding. -/
theorem extent_error (finite : (extent lower upper margin).isFinite = true)
    (positive : 0 < value (extent lower upper margin)) :
    |value (upper + margin) - value (lower - margin) - value (extent lower upper margin)| ≤
      value (extent lower upper margin) / 2 ^ 53 := by
  have error := Double.error_sub finite
  change _ ≤ |value (extent lower upper margin)| / _ at error
  rwa [abs_of_pos positive] at error

/-- A page with a margin is not much smaller than the margin. -/
theorem margin_lt_extent (finite : (extent lower upper margin).isFinite = true)
    (ordered : value lower ≤ value upper) (positive : 0 < value (extent lower upper margin)) :
    value margin / 2 < value (extent lower upper margin) := by
  obtain ⟨-, -, -, startFinite, endFinite⟩ := isFinite_of_extent finite
  have less : value (lower - margin) < value (upper + margin) := by
    by_contra notLess
    have shrunk := (Double.rounds_sub endFinite startFinite).2.le_of_le Double.representable_zero (by linarith)
    exact absurd positive (not_lt.mpr shrunk)
  have startError := (abs_le.mp (Double.error_sub startFinite)).1
  have endError := (abs_le.mp (Double.error_add endFinite)).2
  have sizeError := (abs_le.mp (Double.error_sub finite)).2
  -- What the roundings of the two ends can take away is a part of the gap between these.
  obtain ⟨startSize, endSize⟩ :=
    (Double.representable_value (lower - margin)).apart (Double.representable_value (upper + margin)) less
  change _ - value (extent lower upper margin) ≤ |value (extent lower upper margin)| / _ at sizeError
  rw [abs_of_pos positive] at sizeError
  norm_num at startSize endSize startError endError sizeError ⊢
  linarith

/-- The far side of the drawing lies before the end of the page by the margin, but for what
    the roundings of that end and of the size take away. -/
theorem far_side_le (finite : (extent lower upper margin).isFinite = true)
    (positive : 0 < value (extent lower upper margin)) :
    value upper + value margin ≤ value (lower - margin) + value (extent lower upper margin) +
      (|value (lower - margin)| + 3 * value (extent lower upper margin)) / 2 ^ 53 := by
  obtain ⟨-, -, -, -, endFinite⟩ := isFinite_of_extent finite
  have endError := (abs_le.mp (Double.error_add endFinite)).2
  have sizeError := abs_le.mp (extent_error finite positive)
  -- The end is no further from zero than the start and the size together.
  have endSize : |value (upper + margin)| ≤
      |value (lower - margin)| + (value (extent lower upper margin) + value (extent lower upper margin) / 2 ^ 53) := by
    calc |value (upper + margin)|
        = |value (lower - margin) + (value (upper + margin) - value (lower - margin))| := by ring_nf
      _ ≤ |value (lower - margin)| + |value (upper + margin) - value (lower - margin)| := abs_add_le _ _
      _ ≤ _ := by
        gcongr
        rw [abs_le]
        constructor <;> linarith
  linarith

/-! ## What is printed -/

/-- A printed coordinate and the printed start and size of an extent with a margin, all of them
    whole multiples of a unit. -/
structure Shows (unit margin start size shown : ℚ) : Prop where
  least : start ≤ shown
  most : shown ≤ start + size + (3 / 2 * unit + (size + unit / 2) / 2 ^ 53)
  close : size < 2 ^ 52 * unit → shown ≤ start + size + unit
  inside : unit ≤ margin → |start| + size ≤ 2 ^ 50 * unit → shown ≤ start + size

/-- Whole numbers of units that are in order up to a unit and a half are shown as well, and
    exactly so if the margin, in units as well, makes up for a part of these. -/
theorem Shows.of_counts {first count last : ℤ} {room : ℚ} (ordered : first ≤ last)
    (bound : (last : ℚ) ≤ first + count + (3 / 2 + (count + 1 / 2) / 2 ^ 53))
    (roomy : |(first : ℚ)| + count ≤ 2 ^ 50 → (last : ℚ) + room < first + count + 2) :
    Shows (1 / 10 ^ places) (room / 10 ^ places) (first / 10 ^ places) (count / 10 ^ places) (last / 10 ^ places) := by
  have scale : (0 : ℚ) < 10 ^ places := by positivity
  refine ⟨?_, ?_, fun small => ?_, fun wide small => ?_⟩
  · gcongr
  · have units : (first : ℚ) / 10 ^ places + count / 10 ^ places +
        (3 / 2 * (1 / 10 ^ places) + (count / 10 ^ places + 1 / 10 ^ places / 2) / 2 ^ 53) =
          (first + count + (3 / 2 + (count + 1 / 2) / 2 ^ 53)) / 10 ^ places := by ring
    rw [units]
    gcongr
  · have fewer : (count : ℚ) < 2 ^ 52 := by
      rw [div_lt_iff₀ scale, mul_assoc, one_div, inv_mul_cancel₀ scale.ne', mul_one] at small
      exact small
    have fewer : count + 1 ≤ 2 ^ 52 := by exact_mod_cast fewer
    have fewer : (count : ℚ) + 1 ≤ 2 ^ 52 := by exact_mod_cast fewer
    -- The distance is less than two units, and it is a whole number of them.
    have next : last < first + count + 2 := by
      have : (last : ℚ) < first + count + 2 := by
        norm_num at bound fewer ⊢
        linarith
      exact_mod_cast this
    have next : (last : ℚ) ≤ first + count + 1 := by exact_mod_cast Int.lt_add_one_iff.mp (by omega)
    rw [← add_div, ← add_div]
    gcongr
  · have wide : 1 ≤ room := (div_le_div_iff_of_pos_right scale).mp wide
    have fewer : |(first : ℚ)| + count ≤ 2 ^ 50 := by
      rw [abs_div, abs_of_pos scale, ← add_div, div_le_iff₀ scale, mul_assoc, one_div, inv_mul_cancel₀ scale.ne',
        mul_one] at small
      exact small
    have next : last < first + count + 1 := by
      have : (last : ℚ) < first + count + 1 := by linarith [roomy fewer]
      exact_mod_cast this
    have next : (last : ℚ) ≤ first + count := by exact_mod_cast Int.lt_add_one_iff.mp next
    rw [← add_div]
    gcongr

namespace Encloses

variable (around : Encloses lower upper coordinates)
include around

theorem lower_mem (finite : lower.isFinite = true) : lower ∈ coordinates := by
  refine around.lowerFound.resolve_left ?_
  rintro rfl
  exact absurd finite (by decide +kernel)

theorem isFinite_of_mem (lowerFinite : lower.isFinite = true) (upperFinite : upper.isFinite = true) {x : Float}
    (member : x ∈ coordinates) (number : x.isNaN = false) : x.isFinite = true := by
  have below := around.least x member number
  have above := around.most x member number
  rw [isFinite_iff, abs_lt] at lowerFinite upperFinite ⊢
  exact ⟨number, by linarith [lowerFinite.2.1], by linarith [upperFinite.2.2]⟩

/-- A page that has a size at all is printed with one, unless the margin is less than a
    unit. -/
theorem size_shown (useful : places ≤ Decimal.usefulPlaces) (finite : (extent lower upper margin).isFinite = true)
    (positive : 0 < value (extent lower upper margin)) {size : ℚ}
    (read : Decimal.read (Decimal.text (extent lower upper margin) places) = some size) :
    0 ≤ size ∧ (1 / 10 ^ places ≤ value margin → 0 < size) := by
  obtain ⟨count, near, reads⟩ := Decimal.read_text finite useful
  obtain rfl : (count : ℚ) / 10 ^ places = size := Option.some.inj (reads.symm.trans read)
  have scale : (0 : ℚ) < 10 ^ places := by positivity
  constructor
  · have least : 0 ≤ count := near.le_of_ge (by push_cast; positivity)
    have : (0 : ℚ) ≤ count := by exact_mod_cast least
    positivity
  · intro wide
    obtain ⟨lowerFinite, -⟩ := isFinite_of_extent finite
    have ordered := around.most lower (around.lower_mem lowerFinite) around.lowerNumber
    have half := margin_lt_extent finite ordered positive
    rw [div_le_iff₀ scale] at wide
    have more : 1 / 2 < value (extent lower upper margin) * 10 ^ places := by nlinarith
    have : (0 : ℚ) < count := by linarith [near.lower]
    positivity

/-- The printed coordinates lie in the printed extent, up to what rounding adds where the margin
    does not make up for it. -/
theorem shows (useful : places ≤ Decimal.usefulPlaces) (finite : (extent lower upper margin).isFinite = true)
    (outwards : 0 ≤ value margin) (positive : 0 < value (extent lower upper margin)) {start size : ℚ}
    (startRead : Decimal.read (Decimal.text (lower - margin) places) = some start)
    (sizeRead : Decimal.read (Decimal.text (extent lower upper margin) places) = some size) {x : Float}
    (member : x ∈ coordinates) (number : x.isNaN = false) :
    ∃ shown, Decimal.read (Decimal.text x places) = some shown ∧
      Shows (1 / 10 ^ places) (value margin) start size shown := by
  obtain ⟨lowerFinite, upperFinite, -, startFinite, -⟩ := isFinite_of_extent finite
  obtain ⟨first, startNear, startReads⟩ := Decimal.read_text startFinite useful
  obtain ⟨count, sizeNear, sizeReads⟩ := Decimal.read_text finite useful
  obtain ⟨last, near, reads⟩ :=
    Decimal.read_text (around.isFinite_of_mem lowerFinite upperFinite member number) useful
  obtain rfl : (first : ℚ) / 10 ^ places = start := Option.some.inj (startReads.symm.trans startRead)
  obtain rfl : (count : ℚ) / 10 ^ places = size := Option.some.inj (sizeReads.symm.trans sizeRead)
  obtain ⟨startLess, endMore⟩ := extent_around finite outwards
  have below := around.least x member number
  have above := around.most x member number
  have sizeError := (abs_le.mp (extent_error finite positive)).2
  have scale : (0 : ℚ) < 10 ^ places := by positivity
  have ordered : first ≤ last := startNear.mono near (by gcongr; linarith)
  have reached : value x * 10 ^ places ≤
      (value (lower - margin) + value (extent lower upper margin) +
        value (extent lower upper margin) / 2 ^ 53) * 10 ^ places := by
    gcongr
    linarith
  have bound : (last : ℚ) ≤ first + count + (3 / 2 + (count + 1 / 2) / 2 ^ 53) := by
    have := startNear.lower
    have := sizeNear.lower
    have := near.upper
    linarith
  have roomy (small : |(first : ℚ)| + count ≤ 2 ^ 50) :
      (last : ℚ) + value margin * 10 ^ places < first + count + 2 := by
    have far : (value x + value margin) * 10 ^ places ≤
        (value (lower - margin) + value (extent lower upper margin) +
          (|value (lower - margin)| + 3 * value (extent lower upper margin)) / 2 ^ 53) * 10 ^ places :=
      mul_le_mul_of_nonneg_right (by linarith [far_side_le finite positive]) scale.le
    have startSize := startNear.abs_le_add_half
    rw [abs_mul, abs_of_pos scale] at startSize
    have := startNear.lower
    have := sizeNear.lower
    have := near.upper
    have := abs_nonneg (first : ℚ)
    linarith
  refine ⟨_, reads, ?_⟩
  rw [← mul_div_cancel_right₀ (value margin) scale.ne']
  exact .of_counts ordered bound roomy

/-! ## Moderate drawings -/

theorem within_sides (all : ∀ x ∈ coordinates, Within n x) (nonempty : coordinates ≠ []) (small : n < 1024) :
    Within n lower ∧ Within n upper := by
  obtain ⟨x, member⟩ := List.exists_mem_of_ne_nil coordinates nonempty
  have within := all x member
  have below := around.least x member within.number
  have above := around.most x member within.number
  have top : (2 : ℚ) ^ n < Double.ceiling := by
    rw [Double.ceiling_eq]
    exact zpow_lt_zpow_right₀ (by norm_num) small
  have size := abs_le.mp within.size
  constructor
  · refine all lower (around.lowerFound.resolve_left ?_)
    rintro rfl
    have infinite := Double.value_infinity
    linarith
  · refine all upper (around.upperFound.resolve_left ?_)
    rintro rfl
    have infinite := Double.value_neg_infinity
    linarith

end Encloses

/-- The page of a moderate drawing with a moderate margin. -/
theorem within_extent (lowerWithin : Within n lower) (upperWithin : Within n upper) (marginWithin : Within n margin)
    (least : -1074 ≤ n) (small : n < 1022) :
    Within (n + 1) (lower - margin) ∧ Within (n + 1) (upper + margin) ∧ Within (n + 2) (extent lower upper margin) := by
  have start := lowerWithin.sub marginWithin least (by omega)
  have ending := upperWithin.add marginWithin least (by omega)
  have size := ending.sub start (by omega) (by omega)
  rw [add_assoc] at size
  exact ⟨start, ending, size⟩

end PlantDrawing.Box
