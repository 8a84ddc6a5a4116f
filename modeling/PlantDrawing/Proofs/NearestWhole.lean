import Mathlib.Algebra.Order.Field.Rat
import Mathlib.Tactic.Linarith
import Mathlib.Tactic.FieldSimp
import PlantDrawing.Decimal
import PlantDrawing.Proofs.Grain

/-!
# The nearest whole number

Numbers are rounded twice on the way to a page: to the grain of a double, and to the places
of a decimal. Both times it is the nearest whole number of grains or of units that is taken,
and of two equally near ones the even one (`IsNearest`). There is one such number, it
increases with what is rounded (`IsNearest.mono`), and it never passes a whole number
(`IsNearest.le_of_le`).
-/
namespace PlantDrawing

/-- A whole number nearest to a number; of two equally near ones, the even one. -/
structure IsNearest (q : ℚ) (n : ℤ) : Prop where
  lower : q ≤ n + 1 / 2
  upper : n ≤ q + 1 / 2
  even : (n : ℚ) = q + 1 / 2 ∨ q = n + 1 / 2 → n % 2 = 0

namespace IsNearest

variable {q r : ℚ} {m n : ℤ}

theorem mono (first : IsNearest q m) (second : IsNearest r n) (le : q ≤ r) : m ≤ n := by
  by_contra greater
  have apart : (n : ℚ) + 1 ≤ m := by exact_mod_cast (by omega : n + 1 ≤ m)
  have above := first.upper
  have below := second.lower
  -- Nothing is left between the two: both lie half a place from the same number.
  have firstEven := first.even (.inl (by linarith))
  have secondEven := second.even (.inr (by linarith))
  have next : (m : ℚ) = n + 1 := by linarith
  have next : m = n + 1 := by exact_mod_cast next
  omega

theorem unique (first : IsNearest q m) (second : IsNearest q n) : m = n :=
  le_antisymm (first.mono second le_rfl) (second.mono first le_rfl)

theorem of_below (least : n ≤ q) (below : q < n + 1 / 2) : IsNearest q n :=
  ⟨by linarith, by linarith, fun tie => by rcases tie with tie | tie <;> linarith⟩

theorem of_above (above : n + 1 / 2 < q) (most : q ≤ n + 1) : IsNearest q (n + 1) := by
  refine ⟨?_, ?_, fun tie => ?_⟩
  · push_cast
    linarith
  · push_cast
    linarith
  · push_cast at tie
    rcases tie with tie | tie <;> linarith

/-- Half a place more than a number is rounded up just if the number is odd. -/
theorem of_half (n : ℕ) : IsNearest (n + 1 / 2) (n + n % 2 : ℕ) := by
  rcases Nat.mod_two_eq_zero_or_one n with even | odd
  · rw [even]
    exact ⟨by push_cast; linarith, by push_cast; linarith, fun _ => by omega⟩
  · rw [odd]
    exact ⟨by push_cast; linarith, by push_cast; linarith, fun _ => by omega⟩

theorem whole (n : ℤ) : IsNearest n n := of_below le_rfl (by linarith)

theorem le_of_le (near : IsNearest q n) (le : q ≤ m) : n ≤ m := near.mono (whole m) le

theorem le_of_ge (near : IsNearest q n) (le : m ≤ q) : m ≤ n := (whole m).mono near le

theorem neg (near : IsNearest q n) : IsNearest (-q) (-n) := by
  obtain ⟨lower, upper, even⟩ := near
  refine ⟨?_, ?_, fun tie => ?_⟩
  · push_cast
    linarith
  · push_cast
    linarith
  · push_cast at tie
    have := even (tie.symm.imp (fun below => by linarith) (fun above => by linarith))
    omega

theorem error (near : IsNearest q n) : |(n : ℚ) - q| ≤ 1 / 2 := by
  rw [abs_le]
  constructor
  · linarith [near.lower]
  · linarith [near.upper]

theorem abs_le_add_half (near : IsNearest q n) : |q| ≤ |(n : ℚ)| + 1 / 2 := by
  have error := near.error
  rw [abs_sub_comm] at error
  linarith [abs_sub_abs_le_abs_sub q (n : ℚ)]

/-- What is nearest to a number lies below an even one just if the number lies below the middle
    between that one and the one before. -/
theorem lt_iff_of_even (near : IsNearest q n) (even : m % 2 = 0) : n < m ↔ q < m - 1 / 2 := by
  constructor
  · intro less
    by_contra notLess
    have before : (n : ℚ) ≤ m - 1 := by exact_mod_cast (by omega : n ≤ m - 1)
    have lower := near.lower
    have tie := near.even (.inr (by linarith))
    have next : (n : ℚ) = m - 1 := by linarith
    have next : n = m - 1 := by exact_mod_cast next
    omega
  · intro less
    have upper := near.upper
    exact_mod_cast (by linarith : (n : ℚ) < m)

/-- Half a place is rounded down to zero, and all that is more is rounded to more. -/
theorem pos_iff (near : IsNearest q n) : 0 < n ↔ 1 / 2 < q := by
  have below := near.neg.lt_iff_of_even (m := 0) rfl
  rw [neg_lt_zero, Int.cast_zero, zero_sub, neg_lt_neg_iff] at below
  exact below

end IsNearest

/-! ## Quotients -/

namespace Decimal

theorem isNearest_nearestQuotient (numerator : Nat) {denominator : Nat} (positive : 0 < denominator) :
    IsNearest (numerator / denominator) (nearestQuotient numerator denominator) := by
  have divided := Nat.div_add_mod numerator denominator
  have rest := Nat.mod_lt numerator positive
  unfold nearestQuotient
  dsimp only
  generalize numerator / denominator = quotient at divided
  generalize numerator % denominator = remainder at divided rest
  have scale : (0 : ℚ) < denominator := by exact_mod_cast positive
  have exact : (numerator : ℚ) / denominator = quotient + remainder / denominator := by
    rw [← divided]
    push_cast
    field_simp
  rw [exact]
  have least : 0 ≤ (remainder : ℚ) / denominator := div_nonneg (Nat.cast_nonneg _) scale.le
  split
  · rename_i below
    have small : (remainder : ℚ) / denominator < 1 / 2 := by
      rw [div_lt_div_iff₀ scale (by norm_num)]
      exact_mod_cast (by omega : remainder * 2 < 1 * denominator)
    refine .of_below ?_ ?_
    · rw [Int.cast_natCast]
      linarith
    · rw [Int.cast_natCast]
      linarith
  · rename_i notBelow
    have most : (remainder : ℚ) / denominator < 1 := by
      rw [div_lt_iff₀ scale]
      exact_mod_cast (by omega : remainder < 1 * denominator)
    split
    · rename_i above
      have larger : 1 / 2 < (remainder : ℚ) / denominator := by
        rw [div_lt_div_iff₀ (by norm_num) scale]
        exact_mod_cast (by omega : 1 * denominator < remainder * 2)
      rw [Nat.cast_add_one]
      refine .of_above ?_ ?_
      · rw [Int.cast_natCast]
        linarith
      · rw [Int.cast_natCast]
        linarith
    · rename_i notAbove
      have half : (remainder : ℚ) / denominator = 1 / 2 := by
        rw [div_eq_div_iff scale.ne' (by norm_num)]
        exact_mod_cast (by omega : remainder * 2 = 1 * denominator)
      rw [half]
      exact .of_half quotient

end Decimal

/-! ## Shifts -/

namespace Double

open Float.Model Float.Model.UnpackedFloat

/-- The number that a mantissa with two further bits stands for, as far as they tell: whether
    it is the mantissa itself, half a place more, or in one of the gaps between these. -/
def Represents : ExtendedMantissa → ℚ → Prop
  | ⟨mantissa, false, false⟩, x => x = mantissa
  | ⟨mantissa, false, true⟩, x => mantissa < x ∧ x < mantissa + 1 / 2
  | ⟨mantissa, true, false⟩, x => x = mantissa + 1 / 2
  | ⟨mantissa, true, true⟩, x => mantissa + 1 / 2 < x ∧ x < mantissa + 1

variable {extended : ExtendedMantissa} {x : ℚ}

theorem Represents.shiftRightOne (represents : Represents extended x) :
    Represents extended.shiftRightOne (x / 2) := by
  obtain ⟨mantissa, half, more⟩ := extended
  obtain ⟨quotient, digit⟩ : ∃ quotient, mantissa = 2 * quotient ∨ mantissa = 2 * quotient + 1 :=
    ⟨mantissa / 2, by omega⟩
  have halved : mantissa / 2 = quotient := by omega
  unfold ExtendedMantissa.shiftRightOne
  rcases digit with rfl | rfl
  · have even : 2 * quotient % 2 = 0 := by omega
    cases half <;> cases more <;> simp [Represents, halved, even] at represents ⊢
    · linarith
    · constructor <;> linarith
    · constructor <;> linarith
    · constructor <;> linarith
  · have odd : (2 * quotient + 1) % 2 = 1 := by omega
    cases half <;> cases more <;> simp [Represents, halved, odd] at represents ⊢
    · linarith
    · constructor <;> linarith
    · constructor <;> linarith
    · constructor <;> linarith

theorem represents_shiftRight (mantissa count : Nat) :
    Represents (ExtendedMantissa.ofMantissaAndAccuracy mantissa .exact >>> count) (mantissa / 2 ^ count) := by
  induction count with
  | zero => simp [HShiftRight.hShiftRight, Nat.repeat, ExtendedMantissa.ofMantissaAndAccuracy, Represents]
  | succ count ih =>
    rw [shiftRight_succ, pow_succ, ← div_div]
    exact ih.shiftRightOne

theorem Represents.isNearest (represents : Represents extended x) : IsNearest x extended.roundedMantissa := by
  obtain ⟨mantissa, half, more⟩ := extended
  cases half <;> cases more <;>
    simp only [Represents, ExtendedMantissa.roundedMantissa, ExtendedMantissa.accuracy,
      Accuracy.roundToNearestEven] at represents ⊢
  · exact represents ▸ IsNearest.whole mantissa
  · exact .of_below represents.1.le represents.2
  · exact represents ▸ IsNearest.of_half mantissa
  · exact .of_above represents.1 represents.2.le

/-- A mantissa is rounded to the nearest one after a shift. -/
theorem isNearest_shiftRight (mantissa count : Nat) :
    IsNearest (mantissa / 2 ^ count)
      (ExtendedMantissa.ofMantissaAndAccuracy mantissa .exact >>> count).roundedMantissa :=
  (represents_shiftRight mantissa count).isNearest

end Double

end PlantDrawing
