import Mathlib.Algebra.Group.Nat.Defs
import PlantDrawing.Arithmetic

/-!
# The grain of doubles

A finite double is a whole number of grains, fewer than two to the 53rd of them,
and its grain is a power of two. Rounding makes the grain no coarser than the size
of a number demands (`grain_roundWithAccuracy`, `grain_round`). So a sum with a
number that is small beside the coarsest grain allowed keeps to that grain, however
often it is taken (`grain_add`, `grain_sub`), and a product has a grain not far
above those of its factors (`grain_mul`).
-/
namespace PlantDrawing.Double

open Float.Model Float.Model.UnpackedFloat

/-- A finite double whose grain is at most two to the `bound`. -/
def GrainAtMost (bound : Int) : UnpackedFloat → Prop
  | .zero _ => True
  | .finite _ _ exponent _ => exponent ≤ bound
  | .infinity _ => False
  | .notANumber => False

instance (bound : Int) : (unpacked : UnpackedFloat) → Decidable (GrainAtMost bound unpacked)
  | .zero _ => isTrue trivial
  | .finite _ _ exponent _ => inferInstanceAs (Decidable (exponent ≤ bound))
  | .infinity _ => isFalse id
  | .notANumber => isFalse id

variable {bound : Int} {mantissa : Nat} {exponent : Int}

/-! ## Shifts -/

theorem shiftRight_succ (extended : ExtendedMantissa) (count : Nat) :
    extended >>> (count + 1) = (extended >>> count).shiftRightOne := rfl

theorem mantissa_shiftRight (extended : ExtendedMantissa) (count : Nat) :
    (extended >>> count).mantissa = extended.mantissa / 2 ^ count := by
  induction count with
  | zero => simp [HShiftRight.hShiftRight, Nat.repeat]
  | succ count ih =>
    rw [shiftRight_succ, ExtendedMantissa.shiftRightOne]
    simp only [ih]
    rw [Nat.div_div_eq_div_mul, Nat.pow_succ]

theorem roundedMantissa_le (extended : ExtendedMantissa) :
    extended.roundedMantissa ≤ extended.mantissa + 1 := by
  obtain ⟨m, half, rest⟩ := extended
  cases half <;> cases rest <;>
    simp [ExtendedMantissa.roundedMantissa, ExtendedMantissa.accuracy, Accuracy.roundToNearestEven]
  omega

/-- What is less than a half of the last place is dropped. -/
theorem roundedMantissa_of_below_half {extended : ExtendedMantissa} (below : extended.roundBit = false) :
    extended.roundedMantissa = extended.mantissa := by
  obtain ⟨m, half, rest⟩ := extended
  subst below
  cases rest <;> rfl

/-- A shifted mantissa is rounded up only if its last digit to go is one. -/
theorem roundedMantissa_shift_le (mantissa count : Nat) :
    (ExtendedMantissa.ofMantissaAndAccuracy mantissa .exact >>> (count + 1)).roundedMantissa ≤
      (mantissa / 2 ^ count + 1) / 2 := by
  have digits := mantissa_shiftRight (ExtendedMantissa.ofMantissaAndAccuracy mantissa .exact) count
  have shifted : (ExtendedMantissa.ofMantissaAndAccuracy mantissa .exact >>> (count + 1)).mantissa =
      mantissa / 2 ^ count / 2 := by
    rw [shiftRight_succ, ExtendedMantissa.shiftRightOne]
    simp only [digits]
    rfl
  have half : (ExtendedMantissa.ofMantissaAndAccuracy mantissa .exact >>> (count + 1)).roundBit =
      (mantissa / 2 ^ count % 2 != 0) := by
    rw [shiftRight_succ, ExtendedMantissa.shiftRightOne]
    simp only [digits]
    rfl
  by_cases even : mantissa / 2 ^ count % 2 = 0
  · rw [roundedMantissa_of_below_half (by rw [half, even]; rfl), shifted]
    omega
  · have up := roundedMantissa_le
      (ExtendedMantissa.ofMantissaAndAccuracy mantissa .exact >>> (count + 1))
    rw [shifted] at up
    omega

/-! ## Rounding -/

theorem targetExponent_eq (total : Int) :
    Format.binary64.targetExponent total = max (total - 53) (-1074) := rfl

/-- By how many places rounding shifts a mantissa first. -/
def roundingShift (mantissa : Nat) (exponent : Int) : Nat :=
  (Format.binary64.targetExponent (totalExponent mantissa exponent) - exponent).toNat

/-- The mantissa that rounding makes of an exact one with its first shift. -/
def firstRounded (mantissa : Nat) (exponent : Int) : Nat :=
  (ExtendedMantissa.ofMantissaAndAccuracy mantissa .exact >>>
    roundingShift mantissa exponent).roundedMantissa

theorem le_add_roundingShift (mantissa : Nat) (exponent : Int) :
    -1074 ≤ exponent + roundingShift mantissa exponent ∧
      mantissa.log2 ≤ 52 + roundingShift mantissa exponent := by
  unfold roundingShift
  rw [targetExponent_eq, totalExponent]
  omega

theorem firstRounded_le (mantissa : Nat) (exponent : Int) :
    firstRounded mantissa exponent ≤ 2 ^ 53 := by
  obtain ⟨-, short⟩ := le_add_roundingShift mantissa exponent
  have up := roundedMantissa_le (ExtendedMantissa.ofMantissaAndAccuracy mantissa .exact >>>
    roundingShift mantissa exponent)
  have kept : mantissa / 2 ^ roundingShift mantissa exponent < 2 ^ 53 := by
    rw [Nat.div_lt_iff_lt_mul (Nat.two_pow_pos _), ← Nat.pow_add]
    calc mantissa < 2 ^ (mantissa.log2 + 1) := Nat.lt_log2_self
      _ ≤ 2 ^ (53 + roundingShift mantissa exponent) := Nat.pow_le_pow_right (by decide) (by omega)
  rw [mantissa_shiftRight] at up
  have same : (ExtendedMantissa.ofMantissaAndAccuracy mantissa .exact).mantissa = mantissa := rfl
  rw [same] at up
  unfold firstRounded
  omega

/-- A mantissa that has been rounded once is shifted again by one place at most,
    and only if it has reached two to the 53rd. -/
theorem roundingShift_rounded {rounded : Nat} (lowest : -1074 ≤ exponent) :
    (rounded < 2 ^ 53 → roundingShift rounded exponent = 0) ∧
      (rounded ≤ 2 ^ 53 → roundingShift rounded exponent ≤ 1) := by
  have digits : ∀ places, rounded < 2 ^ (places + 1) → rounded.log2 ≤ places := by
    intro places fewer
    by_cases zero : rounded = 0
    · simp [zero]
    · have := (Nat.log2_lt zero).mpr fewer
      omega
  unfold roundingShift
  rw [targetExponent_eq, totalExponent]
  constructor
  · intro less
    have := digits 52 less
    omega
  · intro less
    have := digits 53 (by omega)
    omega

/-- Rounding leaves a grain of the first shift, or one place above it if the
    mantissa is rounded up to two to the 53rd. -/
theorem grain_roundWithAccuracy (sign : Sign)
    (room : exponent + roundingShift mantissa exponent < bound ∨
      exponent + roundingShift mantissa exponent ≤ bound ∧ firstRounded mantissa exponent < 2 ^ 53) :
    GrainAtMost bound (roundWithAccuracy Format.binary64 sign mantissa exponent .exact) := by
  obtain ⟨lowest, -⟩ := le_add_roundingShift mantissa exponent
  obtain ⟨none, one⟩ := @roundingShift_rounded _ (firstRounded mantissa exponent) lowest
  have whole := one (firstRounded_le mantissa exponent)
  have shifted : roundWithAccuracy Format.binary64 sign mantissa exponent .exact =
      let last := shiftToTargetExponent Format.binary64 (firstRounded mantissa exponent)
        (exponent + roundingShift mantissa exponent) .exact
      if zero : last.1.mantissa = 0 then .zero sign
      else .finite sign last.1.mantissa last.2 (Nat.pos_of_ne_zero zero) := rfl
  have exponents : (shiftToTargetExponent Format.binary64 (firstRounded mantissa exponent)
      (exponent + roundingShift mantissa exponent) .exact).2 =
      exponent + roundingShift mantissa exponent +
        roundingShift (firstRounded mantissa exponent) (exponent + roundingShift mantissa exponent) := rfl
  rw [shifted]
  dsimp only
  by_cases zero : (shiftToTargetExponent Format.binary64 (firstRounded mantissa exponent)
      (exponent + roundingShift mantissa exponent) .exact).1.mantissa = 0
  · rw [dif_pos zero]
    trivial
  · rw [dif_neg zero]
    unfold GrainAtMost
    rw [exponents]
    rcases room with below | ⟨within, small⟩
    · omega
    · have := none small
      omega

theorem log2_shiftLeft {mantissa : Nat} (positive : 0 < mantissa) (count : Nat) :
    (mantissa <<< count).log2 = mantissa.log2 + count := by
  rw [Nat.shiftLeft_eq]
  refine (Nat.log2_eq_iff (Nat.ne_of_gt (Nat.mul_pos positive (Nat.two_pow_pos count)))).mpr ⟨?_, ?_⟩
  · rw [Nat.pow_add]
    exact Nat.mul_le_mul_right _ (Nat.log2_self_le (Nat.ne_of_gt positive))
  · rw [Nat.add_right_comm, Nat.pow_add]
    exact Nat.mul_lt_mul_of_pos_right Nat.lt_log2_self (Nat.two_pow_pos count)

/-- A number that lies less than half a grain above the greatest of a grain is
    rounded to that grain or a finer one. -/
theorem grain_round (sign : Sign) {gap : Nat} (lowest : -1074 ≤ bound)
    (apart : exponent + gap + 1 = bound) (positive : 0 < mantissa)
    (small : mantissa < (2 ^ 54 - 1) * 2 ^ gap) :
    GrainAtMost bound (round Format.binary64 sign mantissa exponent) := by
  have digits : mantissa.log2 ≤ 53 + gap := by
    have less : mantissa < 2 ^ (54 + gap) := by
      rw [Nat.pow_add]
      calc mantissa < (2 ^ 54 - 1) * 2 ^ gap := small
        _ ≤ 2 ^ 54 * 2 ^ gap := Nat.mul_le_mul_right _ (by decide)
    have := (Nat.log2_lt (Nat.ne_of_gt positive)).mpr less
    omega
  generalize target : Format.binary64.targetExponent (totalExponent mantissa exponent) = aim
  have aimed := target
  rw [targetExponent_eq, totalExponent] at aimed
  have rounded : round Format.binary64 sign mantissa exponent =
      roundWithAccuracy Format.binary64 sign (mantissa <<< (exponent - aim).toNat)
        (exponent - (exponent - aim).toNat) .exact := by
    rw [← target]
    rfl
  rw [rounded]
  apply grain_roundWithAccuracy
  by_cases finer : aim < exponent
  · -- The mantissa was too short: it is filled up with zeros and not shifted back.
    left
    unfold roundingShift
    rw [targetExponent_eq, totalExponent, log2_shiftLeft positive]
    omega
  · have unshifted : (exponent - aim).toNat = 0 := by omega
    rw [unshifted, Nat.shiftLeft_zero, Int.natCast_zero, Int.sub_zero]
    have shift : roundingShift mantissa exponent = (aim - exponent).toNat := by
      rw [roundingShift, target]
    by_cases coarsest : aim = bound
    · right
      have places : roundingShift mantissa exponent = gap + 1 := by omega
      refine ⟨by omega, ?_⟩
      rw [firstRounded, places]
      have half := roundedMantissa_shift_le mantissa gap
      have quotient : mantissa / 2 ^ gap < 2 ^ 54 - 1 :=
        (Nat.div_lt_iff_lt_mul (Nat.two_pow_pos gap)).mpr small
      omega
    · left
      omega

/-! ## Packing -/

theorem grain_unpack_packComponents (sign : Sign) {high : Nat} (low : BitVec 52) (lowest : -1074 ≤ bound)
    (finite : high < 2047) (within : (high : Int) - 1075 ≤ bound) :
    GrainAtMost bound (UnpackedFloat.unpack Format.binary64
      (packComponents Format.binary64 sign (BitVec.ofNat 11 high) low)) := by
  have same : (BitVec.ofNat 11 high).toNat = high := by
    rw [BitVec.toNat_ofNat]
    omega
  have notTop : BitVec.ofNat 11 high ≠ -1#11 := by
    intro top
    have := congrArg BitVec.toNat top
    rw [same] at this
    change high = 2047 at this
    omega
  have exponent := @unpackExponent_packComponents Format.binary64 sign (BitVec.ofNat 11 high) low
  generalize packComponents Format.binary64 sign (BitVec.ofNat 11 high) low = bits at exponent
  unfold UnpackedFloat.unpack
  dsimp only
  rw [if_neg (exponent ▸ notTop)]
  by_cases bottom : unpackExponent bits = 0#_
  · rw [if_pos bottom]
    by_cases empty : unpackMantissa bits = 0#_
    · rw [dif_pos empty]
      trivial
    · rw [dif_neg empty]
      change ((unpackExponent bits).toNat : Int) - 1075 + 1 ≤ bound
      rw [bottom]
      change (0 : Int) - 1075 + 1 ≤ bound
      omega
  · rw [if_neg bottom]
    change ((unpackExponent bits).toNat : Int) - 1075 ≤ bound
    rw [exponent, same]
    exact within

/-- A double is packed without a change to its grain. -/
theorem grain_pack {unpacked : UnpackedFloat} (lowest : -1074 ≤ bound) (highest : bound ≤ 970)
    (grain : GrainAtMost bound unpacked) : GrainAtMost bound (Float.Model.pack unpacked).unpack := by
  cases unpacked with
  | infinity sign => exact grain.elim
  | notANumber => exact grain.elim
  | zero sign =>
    have packed : (Float.Model.pack (.zero sign)).unpack = .zero sign := by
      cases sign <;> rfl
    rw [packed]
    trivial
  | finite sign mantissa exponent positive =>
    have within : exponent ≤ bound := grain
    have biased : exponent + ↑Format.binary64.exponentBias +
        ↑Format.binary64.mantissaBitsWithoutImplicit = exponent + 1075 := by
      change exponent + 1023 + 52 = exponent + 1075
      omega
    have small : ¬ 2 ^ Format.binary64.exponentBits ≤ (exponent + 1075).toNat + 1 := by
      change ¬ 2048 ≤ (exponent + 1075).toNat + 1
      omega
    change GrainAtMost bound (UnpackedFloat.unpack Format.binary64
      (UnpackedFloat.pack Format.binary64 (.finite sign mantissa exponent positive)))
    unfold UnpackedFloat.pack
    simp only [biased]
    rw [if_neg small]
    split
    · exact grain_unpack_packComponents sign _ lowest (by omega) (by omega)
    · exact @grain_unpack_packComponents _ sign 0 _ lowest (by omega) (by omega)

/-- A number with a mantissa of 53 places at most. -/
def Short : UnpackedFloat → Prop
  | .finite _ mantissa _ _ => mantissa < 2 ^ 53
  | _ => True

theorem short_unpack_bits (bits : BitVec Format.binary64.numBits) :
    Short (UnpackedFloat.unpack Format.binary64 bits) := by
  have places := (unpackMantissa bits).isLt
  change _ < 2 ^ 52 at places
  unfold UnpackedFloat.unpack
  dsimp only
  by_cases top : unpackExponent bits = -1#_
  · rw [if_pos top]
    by_cases empty : unpackMantissa bits = 0#_
    · rw [if_pos empty]
      trivial
    · rw [if_neg empty]
      trivial
  · rw [if_neg top]
    by_cases bottom : unpackExponent bits = 0#_
    · rw [if_pos bottom]
      by_cases empty : unpackMantissa bits = 0#_
      · rw [dif_pos empty]
        trivial
      · rw [dif_neg empty]
        change _ < 2 ^ 53
        omega
    · rw [if_neg bottom]
      change BitVec.toNat _ < 2 ^ 53
      rw [BitVec.toNat_append, ← Nat.shiftLeft_add_eq_or_of_lt places]
      change 1 <<< 52 + _ < 2 ^ 53
      omega

theorem short_unpack (model : Float.Model) : Short model.unpack := short_unpack_bits model.toBits.toBitVec

/-! ## Sums -/

theorem natAbs_apply (sign : Sign) (number : Int) : (sign.apply number).natAbs = number.natAbs := by
  cases sign <;> simp [Sign.apply]

theorem grain_normalize {sum : Int} {gap : Nat} (zeroSign : Sign) (lowest : -1074 ≤ bound)
    (apart : exponent + gap + 1 = bound) (small : sum.natAbs < (2 ^ 54 - 1) * 2 ^ gap) :
    GrainAtMost bound (normalize Format.binary64 sum exponent zeroSign) := by
  unfold UnpackedFloat.normalize
  split
  · rename_i negative
    have : sum < 0 := Int.compare_eq_lt.mp negative
    exact grain_round _ lowest apart (by omega) (by omega)
  · trivial
  · rename_i positive
    have : 0 < sum := Int.compare_eq_gt.mp positive
    exact grain_round _ lowest apart (by omega) (by omega)

/-- A number of the coarsest grain allowed and one far below that grain, brought to
    a common exponent: their mantissas together stay less than half a grain above
    the greatest of that grain. -/
theorem mantissas_small {large little : Nat} {coarse fine : Int} (largeShort : large < 2 ^ 53)
    (littleShort : little < 2 ^ 53) (coarseWithin : coarse ≤ bound) (fineWithin : fine ≤ bound - 54) :
    ∃ gap : Nat, min coarse fine + gap + 1 = bound ∧
      (large <<< (coarse - min coarse fine).toNat) + (little <<< (fine - min coarse fine).toNat) <
        (2 ^ 54 - 1) * 2 ^ gap := by
  obtain ⟨gap, apart⟩ : ∃ gap : Nat, min coarse fine + gap + 1 = bound :=
    ⟨(bound - 1 - min coarse fine).toNat, by omega⟩
  refine ⟨gap, apart, ?_⟩
  rw [Nat.shiftLeft_eq, Nat.shiftLeft_eq]
  have largeBound : large * 2 ^ (coarse - min coarse fine).toNat ≤ (2 ^ 54 - 2) * 2 ^ gap := by
    calc large * 2 ^ (coarse - min coarse fine).toNat
        ≤ (2 ^ 53 - 1) * 2 ^ (gap + 1) :=
          Nat.mul_le_mul (by omega) (Nat.pow_le_pow_right (by decide) (by omega))
      _ = (2 ^ 54 - 2) * 2 ^ gap := by rw [Nat.pow_succ]; omega
  have littleBound : little * 2 ^ (fine - min coarse fine).toNat < 2 ^ gap := by
    calc little * 2 ^ (fine - min coarse fine).toNat
        < 2 ^ 53 * 2 ^ (fine - min coarse fine).toNat :=
          Nat.mul_lt_mul_of_pos_right littleShort (Nat.two_pow_pos _)
      _ = 2 ^ (53 + (fine - min coarse fine).toNat) := (Nat.pow_add ..).symm
      _ ≤ 2 ^ gap := Nat.pow_le_pow_right (by decide) (by omega)
  omega

theorem sub_eq_add_neg (x y : UnpackedFloat) :
    UnpackedFloat.sub Format.binary64 x y = UnpackedFloat.add Format.binary64 x y.neg := by
  have negated : ∀ (sign : Sign) (number : Int), (-sign).apply number = -sign.apply number := by
    intro sign number
    cases sign with
    | positive => rfl
    | negative => exact (Int.neg_neg number).symm
  cases x with
  | finite sign mantissa exponent positive =>
    cases y with
    | finite other mantissa' exponent' positive' =>
      unfold UnpackedFloat.sub UnpackedFloat.add UnpackedFloat.neg
      dsimp only
      rw [negated, Int.sub_eq_add_neg]
    | _ => rfl
  | _ => cases y <;> rfl

/-- A sum with a number far below the coarsest grain allowed has no coarser one. -/
theorem grain_unpacked_add {x y : UnpackedFloat} (lowest : -1074 ≤ bound) (coarse : GrainAtMost bound x)
    (fine : GrainAtMost (bound - 54) y) (xShort : Short x) (yShort : Short y) :
    GrainAtMost bound (UnpackedFloat.add Format.binary64 x y) := by
  cases x with
  | infinity _ => exact coarse.elim
  | notANumber => exact coarse.elim
  | zero sign =>
    cases y with
    | infinity _ => exact fine.elim
    | notANumber => exact fine.elim
    | zero other => cases sign <;> cases other <;> trivial
    | finite other little exponent positive =>
      change exponent ≤ bound - 54 at fine
      change exponent ≤ bound
      omega
  | finite sign large exponent positive =>
    cases y with
    | infinity _ => exact fine.elim
    | notANumber => exact fine.elim
    | zero other => exact coarse
    | finite other little exponent' positive' =>
      obtain ⟨gap, apart, small⟩ := mantissas_small xShort yShort coarse fine
      refine grain_normalize .positive lowest apart (Nat.lt_of_le_of_lt (Int.natAbs_add_le ..) ?_)
      rw [natAbs_apply, natAbs_apply, Int.natAbs_natCast, Int.natAbs_natCast]
      exact small

section
variable {x y : Float} (lowest : -1074 ≤ bound) (highest : bound ≤ 970)
  (coarse : GrainAtMost bound x.toModel.unpack) (fine : GrainAtMost (bound - 54) y.toModel.unpack)
include lowest highest coarse fine

theorem grain_add : GrainAtMost bound (x + y).toModel.unpack :=
  grain_pack lowest highest
    (grain_unpacked_add lowest coarse fine (short_unpack x.toModel) (short_unpack y.toModel))

theorem grain_sub : GrainAtMost bound (x - y).toModel.unpack := by
  refine grain_pack lowest highest ?_
  have yShort := short_unpack y.toModel
  rw [sub_eq_add_neg]
  generalize y.toModel.unpack = subtrahend at fine yShort
  have opposite : GrainAtMost (bound - 54) subtrahend.neg ∧ Short subtrahend.neg := by
    cases subtrahend <;> exact ⟨fine, yShort⟩
  exact grain_unpacked_add lowest coarse opposite.1 (short_unpack x.toModel) opposite.2

end

/-! ## Products -/

/-- A product has a grain not far above the product of the grains. -/
theorem grain_mul {x y : Float} {first second : Int} (lowest : -1074 ≤ first + second + 53)
    (highest : first + second + 54 ≤ 970) (xGrain : GrainAtMost first x.toModel.unpack)
    (yGrain : GrainAtMost second y.toModel.unpack) :
    GrainAtMost (first + second + 54) (x * y).toModel.unpack := by
  refine grain_pack (by omega) highest ?_
  have xShort := short_unpack x.toModel
  have yShort := short_unpack y.toModel
  generalize x.toModel.unpack = left at xGrain xShort
  generalize y.toModel.unpack = right at yGrain yShort
  cases left with
  | infinity _ => exact xGrain.elim
  | notANumber => exact xGrain.elim
  | zero sign =>
    cases right with
    | infinity _ => exact yGrain.elim
    | notANumber => exact yGrain.elim
    | zero other => trivial
    | finite other mantissa exponent positive => trivial
  | finite sign mantissa exponent positive =>
    cases right with
    | infinity _ => exact yGrain.elim
    | notANumber => exact yGrain.elim
    | zero other => trivial
    | finite other mantissa' exponent' positive' =>
      change mantissa < 2 ^ 53 at xShort
      change mantissa' < 2 ^ 53 at yShort
      change exponent ≤ first at xGrain
      change exponent' ≤ second at yGrain
      have digits : (mantissa * mantissa').log2 < 106 := by
        refine (Nat.log2_lt (Nat.ne_of_gt (Nat.mul_pos positive positive'))).mpr ?_
        calc mantissa * mantissa' < 2 ^ 53 * 2 ^ 53 := Nat.mul_lt_mul'' xShort yShort
          _ = 2 ^ 106 := by decide
      apply grain_roundWithAccuracy
      left
      unfold roundingShift
      rw [targetExponent_eq, totalExponent]
      omega

theorem isInf_of_grain {x : Float} (grain : GrainAtMost bound x.toModel.unpack) : x.isInf = false := by
  change x.toModel.unpack.isInf = false
  cases unpacked : x.toModel.unpack with
  | infinity _ => rw [unpacked] at grain; exact grain.elim
  | notANumber => rfl
  | zero _ => rfl
  | finite _ _ _ _ => rfl

end PlantDrawing.Double
