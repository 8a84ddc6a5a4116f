import PlantDrawing.Proofs.DoubleRounding

/-!
# The sizes of doubles

How far sums and products of doubles can grow (`Within.add`, `isFinite_mul_unit`), how far
they are off (`error_add`, `error_sub`), and how far apart two different doubles lie
(`Representable.apart`).
-/
namespace PlantDrawing.Double

open Float.Model Float.Model.UnpackedFloat

variable {x y : Float} {p q : ℚ} {n : ℤ}

/-! ## Growth -/

/-- A double that is no further from zero than a power of two. -/
structure Within (n : ℤ) (x : Float) : Prop where
  number : x.isNaN = false
  size : |value x| ≤ 2 ^ n

theorem within_iff : Within n x ↔ x.isNaN = false ∧ |value x| ≤ 2 ^ n :=
  ⟨fun within => ⟨within.number, within.size⟩, fun both => ⟨both.1, both.2⟩⟩

instance : Decidable (Within n x) := decidable_of_iff _ within_iff.symm

namespace Within

theorem mono {m : ℤ} (within : Within m x) (le : m ≤ n) : Within n x :=
  ⟨within.number, within.size.trans (zpow_le_zpow_right₀ (by norm_num) le)⟩

theorem isFinite (within : Within n x) (small : n < 1024) : x.isFinite = true := by
  rw [isFinite_iff, ceiling_eq]
  exact ⟨within.number, within.size.trans_lt (zpow_lt_zpow_right₀ (by norm_num) small)⟩

/-- A number that is rounded stays within a power of two. -/
theorem of_rounds {exact : ℚ} (number : x.isNaN = false) (rounds : RoundsTo exact (value x))
    (least : -1074 ≤ n) (small : n < 1024) (size : |exact| ≤ 2 ^ n) : Within n x := by
  have power := representable_two_pow least small.le
  rw [abs_le] at size
  exact ⟨number, abs_le.mpr ⟨rounds.ge_of_ge power.neg size.1, rounds.le_of_le power size.2⟩⟩

theorem add (xWithin : Within n x) (yWithin : Within n y) (least : -1074 ≤ n) (small : n < 1023) :
    Within (n + 1) (x + y) := by
  obtain ⟨number, rounds⟩ := rounds_add (xWithin.isFinite (by omega)) (yWithin.isFinite (by omega))
  refine of_rounds number rounds (by omega) (by omega) ?_
  calc |value x + value y| ≤ |value x| + |value y| := abs_add_le _ _
    _ ≤ 2 ^ n + 2 ^ n := add_le_add xWithin.size yWithin.size
    _ = 2 ^ (n + 1) := by rw [zpow_add_one₀ (by norm_num)]; ring

theorem sub (xWithin : Within n x) (yWithin : Within n y) (least : -1074 ≤ n) (small : n < 1023) :
    Within (n + 1) (x - y) := by
  obtain ⟨number, rounds⟩ := rounds_sub (xWithin.isFinite (by omega)) (yWithin.isFinite (by omega))
  refine of_rounds number rounds (by omega) (by omega) ?_
  calc |value x - value y| ≤ |value x| + |value y| := abs_sub _ _
    _ ≤ 2 ^ n + 2 ^ n := add_le_add xWithin.size yWithin.size
    _ = 2 ^ (n + 1) := by rw [zpow_add_one₀ (by norm_num)]; ring

end Within

/-- A number that is rounded stays as small as a finite double. -/
theorem isFinite_of_shrunk {exact : ℚ} (number : x.isNaN = false) (rounds : RoundsTo exact (value x))
    (finite : y.isFinite = true) (shrunk : |exact| ≤ |value y|) : x.isFinite = true ∧ |value x| ≤ |value y| := by
  have representable : Representable |value y| := by
    rcases abs_choice (value y) with same | opposite
    · rw [same]
      exact representable_value y
    · rw [opposite]
      exact (representable_value y).neg
  have size : |value x| ≤ |value y| := by
    rw [abs_le] at shrunk ⊢
    exact ⟨rounds.ge_of_ge representable.neg shrunk.1, rounds.le_of_le representable shrunk.2⟩
  rw [isFinite_iff] at finite ⊢
  exact ⟨⟨number, size.trans_lt finite.2⟩, size⟩

/-- A finite double does not grow when it is multiplied by one of size one at most. -/
theorem isFinite_mul_unit (finite : x.isFinite = true) (unit : Within 0 y) :
    (x * y).isFinite = true ∧ |value (x * y)| ≤ |value x| := by
  obtain ⟨number, rounds⟩ := rounds_mul finite (unit.isFinite (by decide))
  refine isFinite_of_shrunk number rounds finite ?_
  rw [abs_mul]
  exact mul_le_of_le_one_right (abs_nonneg _) (by simpa using unit.size)

theorem isFinite_unit_mul (unit : Within 0 x) (finite : y.isFinite = true) :
    (x * y).isFinite = true ∧ |value (x * y)| ≤ |value y| := by
  obtain ⟨number, rounds⟩ := rounds_mul (unit.isFinite (by decide)) finite
  refine isFinite_of_shrunk number rounds finite ?_
  rw [abs_mul]
  exact mul_le_of_le_one_left (abs_nonneg _) (by simpa using unit.size)

theorem Within.unit_mul (unit : Within 0 x) (within : Within n y) (small : n < 1024) : Within n (x * y) := by
  obtain ⟨finite, size⟩ := isFinite_unit_mul unit (within.isFinite small)
  exact ⟨(isFinite_iff.mp finite).1, size.trans within.size⟩

/-! ## Errors and gaps -/

/-- All doubles are whole multiples of the smallest one. -/
theorem Representable.whole (representable : Representable q) : ∃ count : ℤ, q = count * 2 ^ (-1074 : ℤ) := by
  obtain ⟨-, count, grain, rfl, lowest, -⟩ := representable
  obtain ⟨places, rfl⟩ : ∃ places : ℕ, grain = -1074 + places := ⟨(grain + 1074).toNat, by omega⟩
  refine ⟨count * 2 ^ places, ?_⟩
  rw [zpow_add₀ (by norm_num), zpow_natCast]
  generalize (2 : ℚ) ^ (-1074 : ℤ) = smallest
  push_cast
  ring

/-- A finite sum is off by one part in two to the 53rd at most. -/
theorem error_add (finite : (x + y).isFinite = true) :
    |value x + value y - value (x + y)| ≤ |value (x + y)| / 2 ^ 53 := by
  obtain ⟨xFinite, yFinite⟩ := isFinite_of_add finite
  obtain ⟨count, same⟩ := (representable_value x).whole
  obtain ⟨count', same'⟩ := (representable_value y).whole
  refine (rounds_add xFinite yFinite).2.error (isFinite_iff.mp finite).2 ⟨count + count', ?_⟩
  rw [same, same', Int.cast_add, add_mul]

/-- A finite difference is off by one part in two to the 53rd at most. -/
theorem error_sub (finite : (x - y).isFinite = true) :
    |value x - value y - value (x - y)| ≤ |value (x - y)| / 2 ^ 53 := by
  obtain ⟨xFinite, yFinite⟩ := isFinite_of_sub finite
  obtain ⟨count, same⟩ := (representable_value x).whole
  obtain ⟨count', same'⟩ := (representable_value y).whole
  refine (rounds_sub xFinite yFinite).2.error (isFinite_iff.mp finite).2 ⟨count - count', ?_⟩
  rw [same, same', Int.cast_sub, sub_mul]

theorem pow_grain_le (count count' : ℤ) {grain grain' : ℤ} (finer : grain ≤ grain')
    (less : (count : ℚ) * 2 ^ grain < count' * 2 ^ grain') :
    (2 : ℚ) ^ grain ≤ count' * 2 ^ grain' - count * 2 ^ grain := by
  obtain ⟨places, rfl⟩ : ∃ places : ℕ, grain' = grain + places := ⟨(grain' - grain).toNat, by omega⟩
  have scale : (0 : ℚ) < 2 ^ grain := by positivity
  have multiple : (count' : ℚ) * 2 ^ (grain + (places : ℤ)) = (count' * 2 ^ places : ℤ) * 2 ^ grain := by
    rw [zpow_add₀ (by norm_num), zpow_natCast]
    push_cast
    ring
  rw [multiple] at less ⊢
  have step : count + 1 ≤ count' * 2 ^ places := by exact_mod_cast lt_of_mul_lt_mul_right less scale.le
  have step : (count : ℚ) + 1 ≤ (count' * 2 ^ places : ℤ) := by exact_mod_cast step
  calc (2 : ℚ) ^ grain = (count + 1) * 2 ^ grain - count * 2 ^ grain := by ring
    _ ≤ (count' * 2 ^ places : ℤ) * 2 ^ grain - count * 2 ^ grain := by gcongr

/-- Two different doubles are not much closer to each other than a grain of the greater. -/
theorem Representable.apart (pRepresentable : Representable p) (qRepresentable : Representable q) (less : p < q) :
    |p| ≤ (2 ^ 53 + 1) * (q - p) ∧ |q| ≤ (2 ^ 53 + 1) * (q - p) := by
  obtain ⟨-, count, grain, same, -, short⟩ := pRepresentable
  obtain ⟨-, count', grain', same', -, short'⟩ := qRepresentable
  have qSize : |q| ≤ |p| + (q - p) := by
    calc |q| = |p + (q - p)| := by ring_nf
      _ ≤ |p| + |q - p| := abs_add_le _ _
      _ = |p| + (q - p) := by rw [abs_of_pos (sub_pos.mpr less)]
  have pSize : |p| ≤ |q| + (q - p) := by
    calc |p| = |q - (q - p)| := by ring_nf
      _ ≤ |q| + |q - p| := abs_sub _ _
      _ = |q| + (q - p) := by rw [abs_of_pos (sub_pos.mpr less)]
  -- The one with the finer grain is bounded by the gap, the other one by that and the gap.
  rcases le_total grain grain' with finer | coarser
  · have gap : (2 : ℚ) ^ grain ≤ q - p := by
      rw [same, same'] at less ⊢
      exact pow_grain_le _ _ finer less
    rw [zpow_add₀ (by norm_num)] at short
    norm_num at short ⊢
    constructor <;> linarith
  · have gap : (2 : ℚ) ^ grain' ≤ q - p := by
      rw [same, same'] at less ⊢
      have := pow_grain_le (-count') (-count) coarser (by push_cast; linarith)
      push_cast at this
      linarith
    rw [zpow_add₀ (by norm_num)] at short'
    norm_num at short' ⊢
    constructor <;> linarith

end PlantDrawing.Double
