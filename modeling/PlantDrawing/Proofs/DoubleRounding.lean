import Mathlib.Tactic.Ring
import PlantDrawing.Proofs.DoubleValue

/-!
# Rounding to doubles

Sums and products are exact numbers rounded to doubles (`RoundsTo`): a grain is chosen that
leaves the number at least two to the 52nd grains, unless it is the least grain of all, and
the nearest whole number of grains is taken; what lies beyond the doubles becomes infinite.
Rounding never passes a double (`RoundsTo.le_of_le`), so it keeps the order, and it changes a
sum by one part in two to the 53rd at most (`RoundsTo.error`).
-/
namespace PlantDrawing.Double

open Float.Model Float.Model.UnpackedFloat

/-- A number with everything beyond the finite doubles cut off. -/
def clamp (q : ℚ) : ℚ := max (-ceiling) (min ceiling q)

/-- The double that an exact number is rounded to has a given value. -/
def RoundsTo (exact rounded : ℚ) : Prop :=
  ∃ grain count : ℤ, -1074 ≤ grain ∧ (grain = -1074 ∨ 2 ^ (grain + 52) ≤ |exact|) ∧
    IsNearest (exact / 2 ^ grain) count ∧ rounded = clamp (count * 2 ^ grain)

/-- A number that a double can have as its value. -/
def Representable (q : ℚ) : Prop :=
  |q| ≤ ceiling ∧ ∃ count grain : ℤ, q = count * 2 ^ grain ∧ -1074 ≤ grain ∧ |q| ≤ 2 ^ (grain + 53)

variable {exact rounded q : ℚ}

theorem clamp_neg (q : ℚ) : clamp (-q) = -clamp q := by
  have top := ceiling_pos
  unfold clamp
  rcases le_total ceiling q with above | below
  · rw [min_eq_left above, min_eq_right (by linarith), max_eq_left (by linarith), max_eq_right (by linarith)]
  · rw [min_eq_right below]
    rcases le_total q (-ceiling) with under | within
    · rw [max_eq_left under, neg_neg, min_eq_left (by linarith), max_eq_right (by linarith)]
    · rw [max_eq_right within, min_eq_right (by linarith), max_eq_right (by linarith)]

theorem clamp_of_within (within : |q| ≤ ceiling) : clamp q = q := by
  obtain ⟨least, most⟩ := abs_le.mp within
  rw [clamp, min_eq_right most, max_eq_right least]

theorem clamp_of_ge (beyond : ceiling ≤ q) : clamp q = ceiling := by
  have top := ceiling_pos
  rw [clamp, min_eq_left beyond, max_eq_right (by linarith)]

theorem clamp_of_lt (within : |clamp q| < ceiling) : clamp q = q := by
  have top := ceiling_pos
  obtain ⟨least, most⟩ := abs_lt.mp within
  unfold clamp at least most ⊢
  rcases le_total ceiling q with above | below
  · rw [min_eq_left above] at most
    exact absurd most (not_lt.mpr (le_max_right _ _))
  · rw [min_eq_right below] at least ⊢
    rcases le_total q (-ceiling) with under | within
    · rw [max_eq_left under] at least
      exact absurd least (lt_irrefl _)
    · exact max_eq_right within

theorem Representable.neg (representable : Representable q) : Representable (-q) := by
  obtain ⟨within, count, grain, rfl, lowest, short⟩ := representable
  refine ⟨(abs_neg _).trans_le within, -count, grain, ?_, lowest, (abs_neg _).trans_le short⟩
  push_cast
  ring

theorem representable_two_pow {n : ℤ} (least : -1074 ≤ n) (most : n ≤ 1024) : Representable (2 ^ n) := by
  have positive : (0 : ℚ) < 2 ^ n := by positivity
  refine ⟨?_, 1, n, by simp, least, ?_⟩
  · rw [abs_of_pos positive, ceiling_eq]
    exact zpow_le_zpow_right₀ (by norm_num) most
  · rw [abs_of_pos positive]
    exact zpow_le_zpow_right₀ (by norm_num) (by omega)

theorem representable_zero : Representable 0 :=
  ⟨by rw [abs_zero]; exact ceiling_pos.le, 0, 0, by simp, by decide, by rw [abs_zero]; positivity⟩

theorem representable_magnitude {mantissa : Nat} {exponent : ℤ} (canonical : Canonical mantissa exponent)
    (highest : exponent ≤ 971) : Representable (mantissa * 2 ^ exponent) := by
  have least : (0 : ℚ) ≤ mantissa * 2 ^ exponent := by positivity
  refine ⟨?_, mantissa, exponent, by simp, canonical.lowest, ?_⟩
  · rw [abs_of_nonneg least]
    exact (magnitude_lt_ceiling canonical.short highest).le
  · rw [abs_of_nonneg least]
    exact (magnitude_lt_of_short canonical.short).le

theorem representable_unpackedValue {u : UnpackedFloat} (proper : Proper u) : Representable (unpackedValue u) := by
  have top : Representable ceiling := by
    rw [ceiling_eq]
    exact representable_two_pow (by decide) (by decide)
  rcases u with (_ | _) | _ | sign | ⟨_ | _, mantissa, exponent, positive⟩
  · exact top.neg
  · exact top
  · exact representable_zero
  · exact representable_zero
  · rw [unpackedValue_negative]
    exact (representable_magnitude proper.1 proper.2).neg
  · rw [unpackedValue_positive]
    exact representable_magnitude proper.1 proper.2

theorem representable_value (x : Float) : Representable (value x) :=
  representable_unpackedValue (proper_unpack x.toModel)

namespace RoundsTo

theorem neg (rounds : RoundsTo exact rounded) : RoundsTo (-exact) (-rounded) := by
  obtain ⟨grain, count, lowest, wide, near, rfl⟩ := rounds
  refine ⟨grain, -count, lowest, by rwa [abs_neg], by rw [neg_div]; exact near.neg, ?_⟩
  rw [← clamp_neg]
  push_cast
  rw [neg_mul]

/-- Between a number and a greater double there is a whole number of grains. -/
theorem le_of_le (rounds : RoundsTo exact rounded) (representable : Representable q) (le : exact ≤ q) :
    rounded ≤ q := by
  obtain ⟨grain, count, lowest, wide, near, rfl⟩ := rounds
  obtain ⟨within, count', grain', same, lowest', short⟩ := representable
  have scale : (0 : ℚ) < 2 ^ grain := by positivity
  obtain ⟨whole, above, below⟩ : ∃ whole : ℤ, exact ≤ whole * 2 ^ grain ∧ whole * 2 ^ grain ≤ q := by
    by_cases coarser : grain ≤ grain'
    · obtain ⟨places, rfl⟩ : ∃ places : ℕ, grain' = grain + places := ⟨(grain' - grain).toNat, by omega⟩
      have multiple : q = (count' * 2 ^ places : ℤ) * 2 ^ grain := by
        rw [same, zpow_add₀ (by norm_num), zpow_natCast]
        push_cast
        ring
      exact ⟨count' * 2 ^ places, multiple ▸ le, multiple.ge⟩
    · have wide : (2 : ℚ) ^ (grain + 52) ≤ |exact| := wide.resolve_left (by omega)
      have small : |q| ≤ 2 ^ (grain + 52) := short.trans (zpow_le_zpow_right₀ (by norm_num) (by omega))
      have place : (2 : ℚ) ^ (grain + 52) = (2 ^ 52 : ℤ) * 2 ^ grain := by
        rw [zpow_add₀ (by norm_num), mul_comm]
        norm_num
      rcases le_total 0 exact with positive | negative
      · rw [abs_of_nonneg positive] at wide
        rw [abs_of_nonneg (positive.trans le)] at small
        exact ⟨2 ^ 52, by linarith, by linarith⟩
      · rw [abs_of_nonpos negative] at wide
        refine ⟨-2 ^ 52, ?_, ?_⟩
        · push_cast at place ⊢
          linarith
        · have := neg_le_of_abs_le small
          push_cast at place ⊢
          linarith
  have counted : count ≤ whole := near.le_of_le ((div_le_iff₀ scale).mpr above)
  have bounded : (count : ℚ) * 2 ^ grain ≤ whole * 2 ^ grain :=
    mul_le_mul_of_nonneg_right (by exact_mod_cast counted) scale.le
  exact max_le (neg_le_of_abs_le within) ((min_le_right _ _).trans (bounded.trans below))

theorem ge_of_ge (rounds : RoundsTo exact rounded) (representable : Representable q) (ge : q ≤ exact) :
    q ≤ rounded :=
  neg_le_neg_iff.mp (rounds.neg.le_of_le representable.neg (neg_le_neg ge))

/-- A sum of doubles is rounded by one part in two to the 53rd of the result at most: among
    the least grains it is not rounded at all. -/
theorem error (rounds : RoundsTo exact rounded) (finite : |rounded| < ceiling)
    (whole : ∃ count : ℤ, exact = count * 2 ^ (-1074 : ℤ)) : |exact - rounded| ≤ |rounded| / 2 ^ 53 := by
  obtain ⟨grain, count, lowest, wide, near, same⟩ := rounds
  have scale : (0 : ℚ) < 2 ^ grain := by positivity
  have value : rounded = count * 2 ^ grain := by
    rw [same] at finite ⊢
    exact clamp_of_lt finite
  by_cases least : grain = -1074
  · subst least
    obtain ⟨exactCount, rfl⟩ := whole
    have counted : exactCount = count := by
      rw [mul_div_cancel_right₀ _ scale.ne'] at near
      exact (IsNearest.whole exactCount).unique near
    rw [value, counted, sub_self, abs_zero]
    positivity
  · have wide := wide.resolve_left least
    have place : (2 : ℚ) ^ (grain + 52) = 2 ^ 52 * 2 ^ grain := by
      rw [zpow_add₀ (by norm_num), mul_comm]
      rfl
    have half : |exact - rounded| ≤ 2 ^ grain / 2 := by
      have apart : exact - rounded = (exact / 2 ^ grain - count) * 2 ^ grain := by
        rw [value, sub_mul, div_mul_cancel₀ _ scale.ne']
      rw [apart, abs_mul, abs_of_pos scale, abs_sub_comm]
      linarith [mul_le_mul_of_nonneg_right near.error scale.le]
    -- The result is no smaller than the power of two below the exact number.
    have many : 2 ^ (grain + 52) ≤ |rounded| := by
      rw [value, place, abs_mul, abs_of_pos scale]
      refine mul_le_mul_of_nonneg_right ?_ scale.le
      rw [place] at wide
      rcases le_total 0 exact with positive | negative
      · rw [abs_of_nonneg positive] at wide
        have counted : 2 ^ 52 ≤ count := near.le_of_ge (by push_cast; exact (le_div_iff₀ scale).mpr wide)
        exact le_abs.mpr (.inl (by exact_mod_cast counted))
      · rw [abs_of_nonpos negative] at wide
        have counted : count ≤ -2 ^ 52 := by
          refine near.le_of_le ?_
          push_cast
          exact (div_le_iff₀ scale).mpr (by linarith)
        exact le_abs.mpr (.inr (by exact_mod_cast (by omega : 2 ^ 52 ≤ -count)))
    calc |exact - rounded| ≤ 2 ^ grain / 2 := half
      _ = 2 ^ (grain + 52) / 2 ^ 53 := by rw [place]; ring
      _ ≤ |rounded| / 2 ^ 53 := div_le_div_of_nonneg_right many (by positivity)

end RoundsTo

/-! ## Rounding a mantissa -/

section
variable {mantissa : Nat} {exponent : ℤ}

/-- Rounding takes the nearest whole number of the grain that it aims at. -/
theorem isNearest_firstRounded (fine : exponent ≤ Format.binary64.targetExponent (totalExponent mantissa exponent)) :
    IsNearest (mantissa * 2 ^ exponent / 2 ^ Format.binary64.targetExponent (totalExponent mantissa exponent))
      (firstRounded mantissa exponent) := by
  have shift : Format.binary64.targetExponent (totalExponent mantissa exponent) =
      exponent + roundingShift mantissa exponent := by
    unfold roundingShift
    omega
  have quotient : (mantissa : ℚ) * 2 ^ exponent / 2 ^ (exponent + (roundingShift mantissa exponent : ℤ)) =
      mantissa / 2 ^ roundingShift mantissa exponent := by
    rw [zpow_add₀ (by norm_num), zpow_natCast]
    field_simp
  rw [shift, quotient]
  exact isNearest_shiftRight mantissa (roundingShift mantissa exponent)

theorem targetExponent_wide (exponent : ℤ) (positive : 0 < mantissa) :
    Format.binary64.targetExponent (totalExponent mantissa exponent) = -1074 ∨
      2 ^ (Format.binary64.targetExponent (totalExponent mantissa exponent) + 52) ≤ (mantissa : ℚ) * 2 ^ exponent := by
  rw [targetExponent_eq, totalExponent]
  by_cases lowest : (mantissa.log2 : ℤ) + 1 + exponent - 53 ≤ -1074
  · exact .inl (max_eq_right lowest)
  · right
    rw [max_eq_left (by omega)]
    have digits : ((2 ^ mantissa.log2 : ℕ) : ℚ) ≤ mantissa := by
      exact_mod_cast Nat.log2_self_le (Nat.ne_of_gt positive)
    calc (2 : ℚ) ^ ((mantissa.log2 : ℤ) + 1 + exponent - 53 + 52) = (2 ^ mantissa.log2 : ℕ) * 2 ^ exponent := by
          rw [show (mantissa.log2 : ℤ) + 1 + exponent - 53 + 52 = mantissa.log2 + exponent by ring,
            zpow_add₀ (by norm_num), zpow_natCast]
          push_cast
          rfl
      _ ≤ mantissa * 2 ^ exponent := mul_le_mul_of_nonneg_right digits (by positivity)

/-- An unpacked double that need not be below infinity. -/
def Fits : UnpackedFloat → Prop
  | .finite _ mantissa exponent _ => Canonical mantissa exponent
  | .zero _ => True
  | _ => False

/-- What has been rounded once is shifted by one place more if it has reached two to the
    53rd, which changes nothing of its value. -/
theorem settle (rounded : Nat) {grain : ℤ} (sign : Sign) (most : rounded ≤ 2 ^ 53) (lowest : -1074 ≤ grain)
    (full : grain = -1074 ∨ 2 ^ 52 ≤ rounded) :
    let last := shiftToTargetExponent Format.binary64 rounded grain .exact
    let settled : UnpackedFloat :=
      if zero : last.1.mantissa = 0 then .zero sign else .finite sign last.1.mantissa last.2 (Nat.pos_of_ne_zero zero)
    Fits settled ∧ unpackedValue settled = sign.apply rounded * 2 ^ grain := by
  have signZero : sign.apply 0 = 0 := by cases sign <;> rfl
  have lastMantissa : (shiftToTargetExponent Format.binary64 rounded grain .exact).1.mantissa =
      rounded / 2 ^ roundingShift rounded grain := mantissa_shiftRight _ _
  have lastExponent : (shiftToTargetExponent Format.binary64 rounded grain .exact).2 =
      grain + roundingShift rounded grain := rfl
  dsimp only
  generalize shiftToTargetExponent Format.binary64 rounded grain .exact = last at lastMantissa lastExponent
  by_cases short : rounded < 2 ^ 53
  · have unshifted := (roundingShift_rounded lowest).1 short
    rw [unshifted, Nat.pow_zero, Nat.div_one] at lastMantissa
    rw [unshifted, Int.natCast_zero, add_zero] at lastExponent
    by_cases zero : last.1.mantissa = 0
    · rw [dif_pos zero, ← lastMantissa, zero]
      refine ⟨trivial, ?_⟩
      rw [Nat.cast_zero, signZero, Int.cast_zero, zero_mul]
      rfl
    · rw [dif_neg zero]
      change Canonical _ _ ∧ ((sign.apply last.1.mantissa : ℤ) : ℚ) * 2 ^ last.2 = _
      rw [lastMantissa, lastExponent]
      exact ⟨⟨short, lowest, full.symm⟩, rfl⟩
  · have reached : rounded = 2 ^ 53 := by omega
    subst reached
    have shifted : roundingShift (2 ^ 53) grain = 1 := by
      unfold roundingShift
      rw [targetExponent_eq, totalExponent, Nat.log2_two_pow]
      omega
    rw [shifted] at lastMantissa lastExponent
    have halved : last.1.mantissa = 2 ^ 52 := lastMantissa
    rw [dif_neg (by omega)]
    change Canonical _ _ ∧ ((sign.apply last.1.mantissa : ℤ) : ℚ) * 2 ^ last.2 = _
    rw [halved, lastExponent]
    refine ⟨⟨by decide, by push_cast; omega, .inl le_rfl⟩, ?_⟩
    rw [zpow_add₀ (by norm_num)]
    cases sign <;> simp only [Sign.apply] <;> push_cast <;> ring

theorem roundWithAccuracy_eq (sign : Sign) (positive : 0 < mantissa)
    (fine : exponent ≤ Format.binary64.targetExponent (totalExponent mantissa exponent)) :
    Fits (roundWithAccuracy Format.binary64 sign mantissa exponent .exact) ∧
      unpackedValue (roundWithAccuracy Format.binary64 sign mantissa exponent .exact) =
        sign.apply (firstRounded mantissa exponent) *
          2 ^ Format.binary64.targetExponent (totalExponent mantissa exponent) := by
  have near := isNearest_firstRounded fine
  have wide := targetExponent_wide exponent positive
  have lowest : -1074 ≤ Format.binary64.targetExponent (totalExponent mantissa exponent) := le_max_right _ _
  have first : exponent + roundingShift mantissa exponent =
      Format.binary64.targetExponent (totalExponent mantissa exponent) := by
    unfold roundingShift
    omega
  have settled := settle (firstRounded mantissa exponent) sign (firstRounded_le mantissa exponent) lowest
    (wide.imp_right fun many => ?_)
  · rw [← first] at settled ⊢
    exact settled
  · rw [zpow_add₀ (by norm_num), mul_comm] at many
    have counted : (2 : ℤ) ^ 52 ≤ firstRounded mantissa exponent := by
      refine near.le_of_ge ?_
      push_cast
      exact (le_div_iff₀ (by positivity)).mpr many
    exact_mod_cast counted

end

/-! ## Packing -/

section
variable {sign : Sign} {mantissa : Nat} {exponent : ℤ} {u v : UnpackedFloat}

theorem unpackSign_packComponents {spec : Format} (sign : Sign) (high : BitVec spec.exponentBits)
    (low : BitVec spec.mantissaBitsWithoutImplicit) :
    Sign.ofBitVec (unpackSign (packComponents spec sign high low)) = sign := by
  have same : unpackSign (packComponents spec sign high low) = sign.toBitVec := by
    apply BitVec.eq_of_getLsbD_eq
    intro i inside
    have first : i = 0 := by omega
    subst first
    unfold unpackSign packComponents
    simp [BitVec.getLsbD_append, BitVec.getElem_append]
  rw [same]
  cases sign <;> rfl

theorem finite_congr {mantissa mantissa' : Nat} {exponent exponent' : ℤ} {positive : 0 < mantissa}
    {positive' : 0 < mantissa'} (mantissas : mantissa = mantissa') (exponents : exponent = exponent') :
    UnpackedFloat.finite sign mantissa exponent positive = .finite sign mantissa' exponent' positive' := by
  subst mantissas exponents
  rfl

theorem unpack_packed_normal (sign : Sign) (high : Nat) (low : BitVec 52) (least : 1 ≤ high) (most : high < 2047) :
    ∃ positive, UnpackedFloat.unpack Format.binary64
      (packComponents Format.binary64 sign (BitVec.ofNat 11 high) low) =
        .finite sign (2 ^ 52 + low.toNat) (high - 1075) positive := by
  have biased : (BitVec.ofNat 11 high).toNat = high := by
    rw [BitVec.toNat_ofNat]
    omega
  have notTop : BitVec.ofNat 11 high ≠ -1#11 := by
    intro top
    have := congrArg BitVec.toNat top
    rw [biased] at this
    change high = 2047 at this
    omega
  have notBottom : BitVec.ofNat 11 high ≠ 0#11 := by
    intro bottom
    have := congrArg BitVec.toNat bottom
    rw [biased] at this
    change high = 0 at this
    omega
  have implicit : (1#1 ++ low).toNat = 2 ^ 52 + low.toNat := by
    rw [BitVec.toNat_append, ← Nat.shiftLeft_add_eq_or_of_lt low.isLt]
    rfl
  have highRead := @unpackExponent_packComponents Format.binary64 sign (BitVec.ofNat 11 high) low
  have lowRead := @unpackMantissa_packComponents Format.binary64 sign (BitVec.ofNat 11 high) low
  have signRead := @unpackSign_packComponents Format.binary64 sign (BitVec.ofNat 11 high) low
  generalize packComponents Format.binary64 sign (BitVec.ofNat 11 high) low = bits at highRead lowRead signRead
  refine ⟨by omega, ?_⟩
  unfold UnpackedFloat.unpack
  dsimp only
  rw [if_neg (highRead ▸ notTop), if_neg (highRead ▸ notBottom)]
  congr 1
  · rw [lowRead]
    exact implicit
  · rw [highRead, biased]
    rfl

theorem unpack_packed_subnormal (sign : Sign) {low : BitVec 52} (some : low ≠ 0#52) :
    ∃ positive, UnpackedFloat.unpack Format.binary64 (packComponents Format.binary64 sign 0#11 low) =
      .finite sign low.toNat (-1074) positive := by
  have highRead := @unpackExponent_packComponents Format.binary64 sign 0#11 low
  have lowRead := @unpackMantissa_packComponents Format.binary64 sign 0#11 low
  have signRead := @unpackSign_packComponents Format.binary64 sign 0#11 low
  generalize packComponents Format.binary64 sign 0#11 low = bits at highRead lowRead signRead
  have positive : 0 < low.toNat := by
    rcases Nat.eq_zero_or_pos low.toNat with zero | positive
    · exact absurd (BitVec.eq_of_toNat_eq zero) some
    · exact positive
  refine ⟨positive, ?_⟩
  unfold UnpackedFloat.unpack
  dsimp only
  rw [if_neg (highRead ▸ by decide), if_pos highRead, dif_neg (lowRead ▸ some)]
  congr 1
  · rw [lowRead]
  · rw [highRead]
    rfl

theorem unpack_packedInfinity (sign : Sign) :
    UnpackedFloat.unpack Format.binary64 (packedInfinity Format.binary64 sign) = .infinity sign := by
  cases sign <;> rfl

theorem unpack_packedZero (sign : Sign) :
    UnpackedFloat.unpack Format.binary64 (packedZero Format.binary64 sign) = .zero sign := by
  cases sign <;> rfl

theorem pack_finite (positive : 0 < mantissa) :
    UnpackedFloat.pack Format.binary64 (.finite sign mantissa exponent positive) =
      if 2 ^ 11 ≤ (exponent + 1023 + 52).toNat + 1 then packedInfinity Format.binary64 sign
      else if mantissa.log2 + 1 = 53 then
        packComponents Format.binary64 sign (BitVec.ofNat 11 (exponent + 1023 + 52).toNat) (BitVec.ofNat 52 mantissa)
      else packComponents Format.binary64 sign 0#11 (BitVec.ofNat 52 mantissa) :=
  rfl

/-- A canonical number is packed as it is, unless it is too great: then it becomes
    infinite. -/
theorem unpack_pack_finite (positive : 0 < mantissa) (canonical : Canonical mantissa exponent) :
    (Float.Model.pack (.finite sign mantissa exponent positive)).unpack =
      if exponent ≤ 971 then .finite sign mantissa exponent positive else .infinity sign := by
  obtain ⟨short, lowest, full⟩ := canonical
  change UnpackedFloat.unpack Format.binary64
    (UnpackedFloat.pack Format.binary64 (.finite sign mantissa exponent positive)) = _
  rw [pack_finite]
  by_cases highest : exponent ≤ 971
  · rw [if_neg (by omega), if_pos highest]
    have lower := Nat.le_log2 (n := mantissa) (k := 52) (Nat.ne_of_gt positive)
    have upper := Nat.log2_lt (n := mantissa) (k := 53) (Nat.ne_of_gt positive)
    by_cases many : 2 ^ 52 ≤ mantissa
    · rw [if_pos (by omega)]
      obtain ⟨_, unpacked⟩ := unpack_packed_normal sign (exponent + 1023 + 52).toNat (BitVec.ofNat 52 mantissa)
        (by omega) (by omega)
      refine unpacked.trans (finite_congr ?_ (by omega))
      rw [BitVec.toNat_ofNat]
      omega
    · rw [if_neg (by omega)]
      have kept : (BitVec.ofNat 52 mantissa).toNat = mantissa := by
        rw [BitVec.toNat_ofNat]
        omega
      have some : BitVec.ofNat 52 mantissa ≠ 0#52 := by
        intro zero
        have := congrArg BitVec.toNat zero
        rw [kept] at this
        change mantissa = 0 at this
        omega
      obtain ⟨_, unpacked⟩ := unpack_packed_subnormal sign some
      exact unpacked.trans (finite_congr kept (full.resolve_left many).symm)
  · rw [if_pos (by omega), if_neg highest]
    exact unpack_packedInfinity sign

/-- What fits is packed to the double next to it. -/
theorem unpack_pack (fits : Fits u) :
    (Float.Model.pack u).unpack ≠ .notANumber ∧
      unpackedValue (Float.Model.pack u).unpack = clamp (unpackedValue u) := by
  cases u with
  | infinity sign => exact fits.elim
  | notANumber => exact fits.elim
  | zero sign =>
    have packed : (Float.Model.pack (.zero sign)).unpack = .zero sign := unpack_packedZero sign
    rw [packed]
    exact ⟨by rintro ⟨⟩, (clamp_of_within (abs_zero.trans_le ceiling_pos.le)).symm⟩
  | finite sign mantissa exponent positive =>
    rw [unpack_pack_finite positive fits]
    have least := magnitude_pos exponent positive
    by_cases highest : exponent ≤ 971
    · rw [if_pos highest]
      refine ⟨by rintro ⟨⟩, (clamp_of_within ?_).symm⟩
      have most := magnitude_lt_ceiling fits.short highest
      cases sign with
      | positive => rw [unpackedValue_positive, abs_of_pos least]; exact most.le
      | negative => rw [unpackedValue_negative, abs_neg, abs_of_pos least]; exact most.le
    · rw [if_neg highest]
      have full : 2 ^ 52 ≤ mantissa := fits.full.resolve_right (by omega)
      have beyond : ceiling ≤ mantissa * 2 ^ exponent := by
        rw [ceiling_eq]
        exact (zpow_le_zpow_right₀ (by norm_num) (by omega)).trans (le_magnitude_of_full full)
      refine ⟨by rintro ⟨⟩, ?_⟩
      cases sign with
      | positive =>
        rw [unpackedValue_positive, clamp_of_ge beyond]
        rfl
      | negative =>
        rw [unpackedValue_negative, clamp_neg, clamp_of_ge beyond]
        rfl

theorem rounds_roundWithAccuracy (sign : Sign) (positive : 0 < mantissa)
    (fine : exponent ≤ Format.binary64.targetExponent (totalExponent mantissa exponent)) :
    (Float.Model.pack (roundWithAccuracy Format.binary64 sign mantissa exponent .exact)).unpack ≠ .notANumber ∧
      RoundsTo (sign.apply mantissa * 2 ^ exponent)
        (unpackedValue (Float.Model.pack (roundWithAccuracy Format.binary64 sign mantissa exponent .exact)).unpack) := by
  obtain ⟨fits, rounded⟩ := roundWithAccuracy_eq sign positive fine
  obtain ⟨number, packed⟩ := unpack_pack fits
  have near := isNearest_firstRounded fine
  have wide := targetExponent_wide exponent positive
  have least : (0 : ℚ) ≤ mantissa * 2 ^ exponent := by positivity
  have lowest : -1074 ≤ Format.binary64.targetExponent (totalExponent mantissa exponent) := le_max_right _ _
  refine ⟨number, Format.binary64.targetExponent (totalExponent mantissa exponent),
    sign.apply (firstRounded mantissa exponent), lowest, ?_, ?_, ?_⟩
  · cases sign with
    | positive => simpa [Sign.apply, abs_of_nonneg least] using wide
    | negative => simpa [Sign.apply, abs_of_nonneg least] using wide
  · cases sign with
    | positive => simpa [Sign.apply] using near
    | negative => simpa [Sign.apply, neg_div] using near.neg
  · rw [packed, rounded]

theorem rounds_round (sign : Sign) (positive : 0 < mantissa) :
    (Float.Model.pack (UnpackedFloat.round Format.binary64 sign mantissa exponent)).unpack ≠ .notANumber ∧
      RoundsTo (sign.apply mantissa * 2 ^ exponent)
        (unpackedValue (Float.Model.pack (UnpackedFloat.round Format.binary64 sign mantissa exponent)).unpack) := by
  generalize target : Format.binary64.targetExponent (totalExponent mantissa exponent) = aim
  obtain ⟨places, shift⟩ : ∃ places : ℕ, (exponent - aim).toNat = places := ⟨_, rfl⟩
  have filled : UnpackedFloat.round Format.binary64 sign mantissa exponent =
      roundWithAccuracy Format.binary64 sign (mantissa <<< places) (exponent - places) .exact := by
    rw [← shift, ← target]
    rfl
  have fine : exponent - places ≤
      Format.binary64.targetExponent (totalExponent (mantissa <<< places) (exponent - places)) := by
    rw [targetExponent_eq, totalExponent, log2_shiftLeft positive]
    rw [targetExponent_eq, totalExponent] at target
    omega
  have same : ((sign.apply (mantissa <<< places : ℕ) : ℤ) : ℚ) * 2 ^ (exponent - places) =
      sign.apply mantissa * 2 ^ exponent := by
    rw [Nat.shiftLeft_eq, zpow_sub₀ (by norm_num), zpow_natCast]
    cases sign <;> simp only [Sign.apply] <;> push_cast <;> field_simp
  rw [filled, ← same]
  exact rounds_roundWithAccuracy sign (by rw [Nat.shiftLeft_eq]; positivity) fine

theorem roundsTo_magnitude (canonical : Canonical mantissa exponent) (highest : exponent ≤ 971) :
    RoundsTo (mantissa * 2 ^ exponent) (mantissa * 2 ^ exponent) := by
  have scale : (0 : ℚ) < 2 ^ exponent := by positivity
  have least : (0 : ℚ) ≤ mantissa * 2 ^ exponent := by positivity
  refine ⟨exponent, mantissa, canonical.lowest, ?_, ?_, ?_⟩
  · rw [abs_of_nonneg least]
    exact canonical.full.symm.imp_right le_magnitude_of_full
  · rw [mul_div_cancel_right₀ _ scale.ne']
    exact IsNearest.whole mantissa
  · refine (clamp_of_within ?_).symm
    rw [abs_of_nonneg least]
    exact (magnitude_lt_ceiling canonical.short highest).le

theorem roundsTo_zero : RoundsTo 0 0 :=
  ⟨-1074, 0, le_rfl, .inl rfl, by simpa using IsNearest.whole 0,
    by rw [Int.cast_zero, zero_mul, clamp_of_within (abs_zero.trans_le ceiling_pos.le)]⟩

/-- A double is rounded to itself. -/
theorem roundsTo_self (proper : Proper u) (finite : u.isFinite = true) :
    RoundsTo (unpackedValue u) (unpackedValue u) := by
  rcases u with (_ | _) | _ | sign | ⟨_ | _, mantissa, exponent, positive⟩
  · cases finite
  · cases finite
  · cases finite
  · exact roundsTo_zero
  · rw [unpackedValue_negative]
    exact (roundsTo_magnitude proper.1 proper.2).neg
  · rw [unpackedValue_positive]
    exact roundsTo_magnitude proper.1 proper.2

theorem rounds_normalize (sum exponent : ℤ) :
    (Float.Model.pack (normalize Format.binary64 sum exponent .positive)).unpack ≠ .notANumber ∧
      RoundsTo (sum * 2 ^ exponent)
        (unpackedValue (Float.Model.pack (normalize Format.binary64 sum exponent .positive)).unpack) := by
  unfold UnpackedFloat.normalize
  split
  · rename_i negative
    have negative : sum < 0 := Int.compare_eq_lt.mp negative
    have same : (sum : ℚ) = ((Sign.negative.apply (-sum).toNat : ℤ) : ℚ) := by
      rw [Sign.apply, Int.toNat_of_nonneg (by omega), neg_neg]
    rw [same]
    exact rounds_round .negative (by omega)
  · rename_i zero
    have zero : sum = 0 := Int.compare_eq_eq.mp zero
    have packed : (Float.Model.pack (.zero .positive)).unpack = .zero .positive := unpack_packedZero .positive
    rw [zero, packed, Int.cast_zero, zero_mul]
    exact ⟨by rintro ⟨⟩, roundsTo_zero⟩
  · rename_i positive
    have positive : 0 < sum := Int.compare_eq_gt.mp positive
    have same : (sum : ℚ) = ((Sign.positive.apply sum.toNat : ℤ) : ℚ) := by
      rw [Sign.apply, Int.toNat_of_nonneg (by omega)]
    rw [same]
    exact rounds_round .positive (by omega)

theorem rounds_pack (proper : Proper u) (finite : u.isFinite = true) :
    (Float.Model.pack u).unpack ≠ .notANumber ∧
      RoundsTo (unpackedValue u) (unpackedValue (Float.Model.pack u).unpack) := by
  have fits : Fits u := by
    cases u with
    | infinity sign => cases finite
    | notANumber => cases finite
    | zero sign => trivial
    | finite sign mantissa exponent positive => exact proper.1
  obtain ⟨number, packed⟩ := unpack_pack fits
  rw [packed, clamp_of_within (representable_unpackedValue proper).1]
  exact ⟨number, roundsTo_self proper finite⟩

/-! ## Sums and products -/

theorem rounds_unpacked_add (uProper : Proper u) (vProper : Proper v) (uFinite : u.isFinite = true)
    (vFinite : v.isFinite = true) :
    (Float.Model.pack (UnpackedFloat.add Format.binary64 u v)).unpack ≠ .notANumber ∧
      RoundsTo (unpackedValue u + unpackedValue v)
        (unpackedValue (Float.Model.pack (UnpackedFloat.add Format.binary64 u v)).unpack) := by
  cases u with
  | infinity _ => cases uFinite
  | notANumber => cases uFinite
  | zero sign =>
    have nothing : unpackedValue (.zero sign) = 0 := rfl
    rw [nothing, zero_add]
    cases v with
    | infinity _ => cases vFinite
    | notANumber => cases vFinite
    | zero sign' => cases sign <;> cases sign' <;> exact rounds_pack trivial rfl
    | finite sign' mantissa' exponent' positive' => exact rounds_pack vProper rfl
  | finite sign mantissa exponent positive =>
    cases v with
    | infinity _ => cases vFinite
    | notANumber => cases vFinite
    | zero sign' =>
      have nothing : unpackedValue (.zero sign') = 0 := rfl
      rw [nothing, add_zero]
      exact rounds_pack uProper rfl
    | finite sign' mantissa' exponent' positive' =>
      have common (sign : Sign) (mantissa : Nat) {exponent low : ℤ} (below : low ≤ exponent) :
          (sign.apply mantissa : ℚ) * 2 ^ exponent = sign.apply (mantissa <<< (exponent - low).toNat : ℕ) * 2 ^ low := by
        obtain ⟨places, rfl⟩ : ∃ places : ℕ, exponent = low + places := ⟨(exponent - low).toNat, by omega⟩
        rw [show (low + places - low).toNat = places by omega, Nat.shiftLeft_eq, zpow_add₀ (by norm_num),
          zpow_natCast]
        cases sign <;> simp only [Sign.apply] <;> push_cast <;> ring
      have summed := rounds_normalize
        (sign.apply (mantissa <<< (exponent - min exponent exponent').toNat : ℕ) +
          sign'.apply (mantissa' <<< (exponent' - min exponent exponent').toNat : ℕ)) (min exponent exponent')
      rw [Int.cast_add, add_mul, ← common sign mantissa (min_le_left _ _),
        ← common sign' mantissa' (min_le_right _ _)] at summed
      exact summed

theorem unpackedValue_neg (u : UnpackedFloat) : unpackedValue u.neg = -unpackedValue u := by
  rcases u with (_ | _) | _ | sign | ⟨_ | _, mantissa, exponent, positive⟩
  · exact (neg_neg _).symm
  · rfl
  · exact neg_zero.symm
  · exact neg_zero.symm
  · rw [unpackedValue_negative, neg_neg]
    exact unpackedValue_positive
  · rw [unpackedValue_positive]
    exact unpackedValue_negative

theorem proper_neg (proper : Proper u) : Proper u.neg := by
  cases u <;> exact proper

theorem isFinite_neg (u : UnpackedFloat) : u.neg.isFinite = u.isFinite := by
  cases u <;> rfl

theorem apply_mul (sign sign' : Sign) (mantissa mantissa' : Nat) :
    (sign * sign').apply (mantissa * mantissa' : ℕ) = sign.apply mantissa * sign'.apply mantissa' := by
  cases sign with
  | positive =>
    cases sign' with
    | positive => exact Nat.cast_mul mantissa mantissa'
    | negative => exact (congrArg Neg.neg (Nat.cast_mul mantissa mantissa')).trans (mul_neg _ _).symm
  | negative =>
    cases sign' with
    | positive => exact (congrArg Neg.neg (Nat.cast_mul mantissa mantissa')).trans (neg_mul _ _).symm
    | negative => exact (Nat.cast_mul mantissa mantissa').trans (neg_mul_neg _ _).symm

theorem rounds_unpacked_mul (uProper : Proper u) (vProper : Proper v) (uFinite : u.isFinite = true)
    (vFinite : v.isFinite = true) :
    (Float.Model.pack (UnpackedFloat.mul Format.binary64 u v)).unpack ≠ .notANumber ∧
      RoundsTo (unpackedValue u * unpackedValue v)
        (unpackedValue (Float.Model.pack (UnpackedFloat.mul Format.binary64 u v)).unpack) := by
  cases u with
  | infinity _ => cases uFinite
  | notANumber => cases uFinite
  | zero sign =>
    have nothing : unpackedValue (.zero sign) = 0 := rfl
    rw [nothing, zero_mul]
    cases v with
    | infinity _ => cases vFinite
    | notANumber => cases vFinite
    | zero sign' => exact rounds_pack (u := .zero (sign * sign')) trivial rfl
    | finite sign' mantissa' exponent' positive' => exact rounds_pack (u := .zero (sign * sign')) trivial rfl
  | finite sign mantissa exponent positive =>
    cases v with
    | infinity _ => cases vFinite
    | notANumber => cases vFinite
    | zero sign' =>
      have nothing : unpackedValue (.zero sign') = 0 := rfl
      rw [nothing, mul_zero]
      exact rounds_pack (u := .zero (sign * sign')) trivial rfl
    | finite sign' mantissa' exponent' positive' =>
      obtain ⟨⟨-, -, full⟩, -⟩ := uProper
      obtain ⟨⟨-, -, full'⟩, -⟩ := vProper
      have many : 2 ^ 52 ≤ mantissa * mantissa' ∨ exponent + exponent' ≤ -1074 := by
        rcases full with full | lowest
        · exact .inl (Nat.le_trans full (Nat.le_mul_of_pos_right _ positive'))
        · rcases full' with full' | lowest'
          · exact .inl (Nat.le_trans full' (Nat.le_mul_of_pos_left _ positive))
          · exact .inr (by omega)
      have fine : exponent + exponent' ≤
          Format.binary64.targetExponent (totalExponent (mantissa * mantissa') (exponent + exponent')) := by
        rw [targetExponent_eq, totalExponent]
        rcases many with many | low
        · have digits := (Nat.le_log2 (Nat.mul_pos positive positive').ne').mpr many
          omega
        · omega
      have multiplied := rounds_roundWithAccuracy (sign * sign') (Nat.mul_pos positive positive') fine
      have product : unpackedValue (.finite sign mantissa exponent positive) *
          unpackedValue (.finite sign' mantissa' exponent' positive') =
            ((sign * sign').apply (mantissa * mantissa' : ℕ) : ℤ) * 2 ^ (exponent + exponent') := by
        change ((sign.apply mantissa : ℤ) : ℚ) * 2 ^ exponent * ((sign'.apply mantissa' : ℤ) * 2 ^ exponent') = _
        rw [apply_mul, zpow_add₀ (by norm_num), Int.cast_mul, mul_mul_mul_comm]
      rw [product]
      exact multiplied

end

section
variable {x y : Float}

/-- A sum of finite doubles is the exact sum, rounded. -/
theorem rounds_add (xFinite : x.isFinite = true) (yFinite : y.isFinite = true) :
    (x + y).isNaN = false ∧ RoundsTo (value x + value y) (value (x + y)) := by
  obtain ⟨number, rounds⟩ := rounds_unpacked_add (proper_unpack x.toModel) (proper_unpack y.toModel) xFinite yFinite
  refine ⟨?_, rounds⟩
  rw [← Bool.not_eq_true, isNaN_iff]
  exact number

/-- A difference of finite doubles is the exact difference, rounded. -/
theorem rounds_sub (xFinite : x.isFinite = true) (yFinite : y.isFinite = true) :
    (x - y).isNaN = false ∧ RoundsTo (value x - value y) (value (x - y)) := by
  have opposite : y.toModel.unpack.neg.isFinite = true := (isFinite_neg _).trans yFinite
  obtain ⟨number, rounds⟩ :=
    rounds_unpacked_add (proper_unpack x.toModel) (proper_neg (proper_unpack y.toModel)) xFinite opposite
  have difference : unpackedValue x.toModel.unpack + -unpackedValue y.toModel.unpack = value x - value y := by
    unfold value
    ring
  rw [← sub_eq_add_neg] at number
  rw [← sub_eq_add_neg, unpackedValue_neg, difference] at rounds
  refine ⟨?_, rounds⟩
  rw [← Bool.not_eq_true, isNaN_iff]
  exact number

/-- A product of finite doubles is the exact product, rounded. -/
theorem rounds_mul (xFinite : x.isFinite = true) (yFinite : y.isFinite = true) :
    (x * y).isNaN = false ∧ RoundsTo (value x * value y) (value (x * y)) := by
  obtain ⟨number, rounds⟩ := rounds_unpacked_mul (proper_unpack x.toModel) (proper_unpack y.toModel) xFinite yFinite
  refine ⟨?_, rounds⟩
  rw [← Bool.not_eq_true, isNaN_iff]
  exact number

theorem infinite_pack {u : UnpackedFloat} (infinite : u.isFinite = false) :
    (Float.Model.pack u).unpack.isFinite = false := by
  cases u with
  | infinity sign =>
    have packed : (Float.Model.pack (.infinity sign)).unpack = .infinity sign := unpack_packedInfinity sign
    rw [packed]
    rfl
  | notANumber => rfl
  | zero sign => cases infinite
  | finite sign mantissa exponent positive => cases infinite

theorem infinite_add {u v : UnpackedFloat} (infinite : u.isFinite = false ∨ v.isFinite = false) :
    (UnpackedFloat.add Format.binary64 u v).isFinite = false := by
  cases u with
  | notANumber => rfl
  | infinity sign =>
    cases v with
    | infinity sign' => cases sign <;> cases sign' <;> rfl
    | _ => rfl
  | zero sign =>
    cases v with
    | zero sign' => rcases infinite with infinite | infinite <;> cases infinite
    | finite sign' mantissa exponent positive => rcases infinite with infinite | infinite <;> cases infinite
    | _ => rfl
  | finite sign mantissa exponent positive =>
    cases v with
    | zero sign' => rcases infinite with infinite | infinite <;> cases infinite
    | finite sign' mantissa exponent positive => rcases infinite with infinite | infinite <;> cases infinite
    | _ => rfl

theorem infinite_mul {u v : UnpackedFloat} (infinite : u.isFinite = false ∨ v.isFinite = false) :
    (UnpackedFloat.mul Format.binary64 u v).isFinite = false := by
  cases u with
  | notANumber => rfl
  | infinity sign => cases v <;> rfl
  | zero sign =>
    cases v with
    | zero sign' => rcases infinite with infinite | infinite <;> cases infinite
    | finite sign' mantissa exponent positive => rcases infinite with infinite | infinite <;> cases infinite
    | _ => rfl
  | finite sign mantissa exponent positive =>
    cases v with
    | zero sign' => rcases infinite with infinite | infinite <;> cases infinite
    | finite sign' mantissa exponent positive => rcases infinite with infinite | infinite <;> cases infinite
    | _ => rfl

/-- A sum is finite only if both terms are. -/
theorem isFinite_of_add (finite : (x + y).isFinite = true) : x.isFinite = true ∧ y.isFinite = true := by
  have both : ¬ (x.toModel.unpack.isFinite = false ∨ y.toModel.unpack.isFinite = false) := fun infinite =>
    absurd (finite.symm.trans (infinite_pack (infinite_add infinite))) (by decide)
  simp only [not_or, Bool.not_eq_false] at both
  exact both

/-- A product is finite only if both factors are. -/
theorem isFinite_of_mul (finite : (x * y).isFinite = true) : x.isFinite = true ∧ y.isFinite = true := by
  have both : ¬ (x.toModel.unpack.isFinite = false ∨ y.toModel.unpack.isFinite = false) := fun infinite =>
    absurd (finite.symm.trans (infinite_pack (infinite_mul infinite))) (by decide)
  simp only [not_or, Bool.not_eq_false] at both
  exact both

/-- A difference is finite only if both terms are. -/
theorem isFinite_of_sub (finite : (x - y).isFinite = true) : x.isFinite = true ∧ y.isFinite = true := by
  have negated : (x - y).isFinite =
      (Float.Model.pack (UnpackedFloat.add Format.binary64 x.toModel.unpack y.toModel.unpack.neg)).unpack.isFinite := by
    rw [← sub_eq_add_neg]
    rfl
  have both : ¬ (x.toModel.unpack.isFinite = false ∨ y.toModel.unpack.neg.isFinite = false) := fun infinite =>
    absurd (finite.symm.trans (negated.trans (infinite_pack (infinite_add infinite)))) (by decide)
  simp only [not_or, Bool.not_eq_false, isFinite_neg] at both
  exact both

end

end PlantDrawing.Double
