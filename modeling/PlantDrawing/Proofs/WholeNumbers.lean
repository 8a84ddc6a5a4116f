import PlantDrawing.Proofs.DoubleSizes

/-!
# Whole numbers as doubles

A whole number is rounded to a double like every other number (`rounds_ofInt`). It is too
large for one from the middle between the greatest double and the next power of two on
(`ofInt_eq_ok`): a finite double keeps away from that power by one of its own grains
(`Representable.le_greatest`), and the middle itself goes to the even side, which is the power.
-/
namespace PlantDrawing.Double

open Float.Model Float.Model.UnpackedFloat

/-- A whole number that is nearer to a finite double than to two to the 1024th. -/
def InRange (n : ℤ) : Prop := n.natAbs < (2 ^ 54 - 1) * 2 ^ 970

instance (n : ℤ) : Decidable (InRange n) := inferInstanceAs (Decidable (n.natAbs < (2 ^ 54 - 1) * 2 ^ 970))

variable {exact rounded q : ℚ} {x : Float} {n : ℤ}

/-! ## The greatest double -/

/-- Half of the grain of the greatest double. It is not to be computed. -/
@[irreducible] def halfGrain : ℚ := 2 ^ (970 : ℤ)

theorem halfGrain_eq : halfGrain = 2 ^ (970 : ℤ) := by
  unfold halfGrain
  rfl

theorem halfGrain_pos : 0 < halfGrain := by
  rw [halfGrain_eq]
  positivity

theorem ceiling_eq_halfGrains : ceiling = 2 ^ 54 * halfGrain := by
  rw [ceiling_eq, halfGrain_eq, show (1024 : ℤ) = 54 + 970 by norm_num, zpow_add₀ (by norm_num)]
  rfl

theorem two_pow_971 : (2 : ℚ) ^ (971 : ℤ) = 2 * halfGrain := by
  rw [halfGrain_eq]
  exact zpow_one_add₀ two_ne_zero 970

theorem two_pow_1023 : (2 : ℚ) ^ (1023 : ℤ) = 2 ^ 53 * halfGrain := by
  rw [halfGrain_eq, show (1023 : ℤ) = 53 + 970 by norm_num, zpow_add₀ (by norm_num)]
  rfl

/-- Between the finite doubles and two to the 1024th lies a grain of 971 places. -/
theorem Representable.le_greatest (representable : Representable q) (less : q < ceiling) :
    q ≤ (2 ^ 54 - 2) * halfGrain := by
  obtain ⟨-, count, grain, rfl, -, short⟩ := representable
  have scale := halfGrain_pos
  by_cases coarse : 971 ≤ grain
  · obtain ⟨places, rfl⟩ : ∃ places : ℕ, grain = 971 + places := ⟨(grain - 971).toNat, by omega⟩
    have multiple : (count : ℚ) * 2 ^ (971 + (places : ℤ)) = ((count * 2 ^ places * 2 : ℤ) : ℚ) * halfGrain := by
      rw [zpow_add₀ (by norm_num), zpow_natCast, two_pow_971]
      push_cast
      ring
    rw [multiple, ceiling_eq_halfGrains] at less
    have fewer : ((count * 2 ^ places * 2 : ℤ) : ℚ) < 2 ^ 54 := lt_of_mul_lt_mul_right less scale.le
    have fewer : count * 2 ^ places * 2 < 2 ^ 54 := by exact_mod_cast fewer
    have fewer : count * 2 ^ places * 2 ≤ 2 ^ 54 - 2 := by omega
    rw [multiple]
    refine mul_le_mul_of_nonneg_right ?_ scale.le
    exact_mod_cast fewer
  · calc (count : ℚ) * 2 ^ grain ≤ 2 ^ (grain + 53) := le_of_abs_le short
      _ ≤ 2 ^ (1023 : ℤ) := zpow_le_zpow_right₀ (by norm_num) (by omega)
      _ = 2 ^ 53 * halfGrain := two_pow_1023
      _ ≤ (2 ^ 54 - 2) * halfGrain := mul_le_mul_of_nonneg_right (by norm_num) scale.le

theorem le_clamp (le : q ≤ rounded) (within : q ≤ ceiling) : q ≤ clamp rounded :=
  le_max_of_le_right (le_min within le)

theorem clamp_lt (less : q < ceiling) : clamp q < ceiling :=
  max_lt (by linarith [ceiling_pos]) (min_lt_of_right_lt less)

theorem clamp_lt_iff : clamp q < ceiling ↔ q < ceiling :=
  ⟨fun finite => not_le.mp fun beyond => (clamp_of_ge beyond ▸ finite).false, clamp_lt⟩

/-- With a grain finer than that of the greatest double, the middle is a whole number of grains,
    and no double. -/
theorem clamp_lt_iff_of_fine {grain count : ℤ} (fine : grain < 971) (near : IsNearest (exact / 2 ^ grain) count)
    (representable : Representable (clamp (count * 2 ^ grain))) :
    clamp (count * 2 ^ grain) < ceiling ↔ exact < (2 ^ 54 - 1) * halfGrain := by
  have top := ceiling_eq_halfGrains
  have scale := halfGrain_pos
  have grained : (0 : ℚ) < 2 ^ grain := by positivity
  obtain ⟨places, middle⟩ : ∃ places : ℕ, 970 = grain + places := ⟨(970 - grain).toNat, by omega⟩
  have whole : (2 ^ 54 - 1) * halfGrain = ((2 ^ 54 - 1) * 2 ^ places : ℤ) * 2 ^ grain := by
    rw [halfGrain_eq, middle, zpow_add₀ (by norm_num), zpow_natCast]
    push_cast
    ring
  constructor
  · intro finite
    by_contra notLess
    have counted : (2 ^ 54 - 1) * 2 ^ places ≤ count :=
      near.le_of_ge ((le_div_iff₀ grained).mpr (whole ▸ not_lt.mp notLess))
    have reached : (2 ^ 54 - 1) * halfGrain ≤ count * 2 ^ grain := by
      rw [whole]
      exact mul_le_mul_of_nonneg_right (by exact_mod_cast counted) grained.le
    have reached := le_clamp reached (by linarith)
    have below := representable.le_greatest finite
    linarith
  · intro less
    have counted : count ≤ (2 ^ 54 - 1) * 2 ^ places := near.le_of_le ((div_le_iff₀ grained).mpr (whole ▸ less).le)
    have within : (count : ℚ) * 2 ^ grain ≤ (2 ^ 54 - 1) * halfGrain := by
      rw [whole]
      exact mul_le_mul_of_nonneg_right (by exact_mod_cast counted) grained.le
    exact clamp_lt (by linarith)

/-- With the grain of the greatest double, the middle is half a grain away from the power, which
    is an even number of grains. -/
theorem clamp_lt_iff_of_greatest {count : ℤ} (near : IsNearest (exact / 2 ^ (971 : ℤ)) count) :
    clamp (count * 2 ^ (971 : ℤ)) < ceiling ↔ exact < (2 ^ 54 - 1) * halfGrain := by
  have scale := halfGrain_pos
  rw [two_pow_971] at near ⊢
  have counted : (count : ℚ) * (2 * halfGrain) < 2 ^ 54 * halfGrain ↔ count < (2 ^ 53 : ℤ) := by
    rw [← mul_assoc, mul_lt_mul_iff_left₀ scale, ← Int.cast_lt (R := ℚ)]
    push_cast
    constructor <;> intro less <;> linarith
  rw [clamp_lt_iff, ceiling_eq_halfGrains, counted, near.lt_iff_of_even (by decide), div_lt_iff₀ (by positivity)]
  refine iff_of_eq (congrArg (exact < ·) ?_)
  push_cast
  ring

/-- A number is rounded to a finite double, or to what lies below these, just if it is less than the
    middle between the greatest one and two to the 1024th. -/
theorem RoundsTo.lt_ceiling_iff (rounds : RoundsTo exact rounded) (representable : Representable rounded) :
    rounded < ceiling ↔ exact < (2 ^ 54 - 1) * halfGrain := by
  obtain ⟨grain, count, -, wide, near, rfl⟩ := id rounds
  rcases lt_trichotomy grain 971 with fine | rfl | coarse
  · exact clamp_lt_iff_of_fine fine near representable
  · exact clamp_lt_iff_of_greatest near
  · have top := ceiling_eq_halfGrains
    have scale := halfGrain_pos
    have beyond : ceiling ≤ |exact| := by
      rw [ceiling_eq]
      exact (zpow_le_zpow_right₀ (by norm_num) (by omega)).trans (wide.resolve_left (by omega))
    have power : Representable ceiling := ceiling_eq ▸ representable_two_pow (by decide) (by decide)
    rcases le_abs.mp beyond with above | below
    · exact iff_of_false (not_lt.mpr (rounds.ge_of_ge power above)) (by linarith)
    · have under := rounds.le_of_le power.neg (by linarith)
      exact iff_of_true (by linarith) (by linarith)

/-! ## Rounding whole numbers -/

theorem RoundsTo.eq_of_representable (rounds : RoundsTo exact rounded) (representable : Representable exact) :
    rounded = exact :=
  le_antisymm (rounds.le_of_le representable le_rfl) (rounds.ge_of_ge representable le_rfl)

theorem rounds_toFloat (word : UInt64) :
    word.toFloat.isNaN = false ∧ RoundsTo (word.toNat : ℚ) (value word.toFloat) := by
  obtain ⟨number, rounds⟩ := rounds_normalize word.toNat 0
  rw [zpow_zero, mul_one] at rounds
  refine ⟨?_, rounds⟩
  rw [← Bool.not_eq_true, isNaN_iff]
  exact number

theorem representable_nat {count : ℕ} (small : count ≤ 2 ^ 53) : Representable count := by
  have small : (count : ℚ) ≤ 2 ^ 53 := by exact_mod_cast small
  refine ⟨?_, count, 0, by simp, by decide, ?_⟩
  · rw [Nat.abs_cast]
    refine small.trans ?_
    rw [ceiling_eq, ← zpow_natCast]
    exact zpow_le_zpow_right₀ (by norm_num) (by norm_num)
  · rw [Nat.abs_cast]
    exact small

/-- Up to two to the 53rd a number is converted as it is. -/
theorem rounds_ofNat_of_short {count : ℕ} (short : count < 2 ^ 53) :
    (Float.ofNat count).isNaN = false ∧ RoundsTo count (value (Float.ofNat count)) := by
  have converted : Float.ofNat count = count.toUInt64.toFloat * 1 := by
    change Float.ofScientific count false 0 = _
    unfold Float.ofScientific
    rw [dif_pos ⟨short, by decide⟩]
    rfl
  have word : count.toUInt64.toNat = count := UInt64.toNat_ofNat_of_lt (short.trans (by decide))
  obtain ⟨number, rounds⟩ := rounds_toFloat count.toUInt64
  rw [word] at rounds
  have same := rounds.eq_of_representable (representable_nat short.le)
  have within : Within 53 count.toUInt64.toFloat := by
    refine ⟨number, ?_⟩
    rw [same, Nat.abs_cast]
    exact_mod_cast short.le
  have one : (1 : Float).isFinite = true := by decide +kernel
  have product := rounds_mul (within.isFinite (by decide)) one
  rw [same, value_one, mul_one] at product
  exact converted ▸ product

/-- From two to the 53rd on a number is rounded from its digits. -/
theorem rounds_ofNat_of_long {count : ℕ} (long : 2 ^ 53 ≤ count) :
    (Float.ofNat count).isNaN = false ∧ RoundsTo count (value (Float.ofNat count)) := by
  have positive : 0 < count := by omega
  have converted : Float.ofNat count = ⟨Float.Model.pack (roundWithAccuracy Format.binary64 .positive
      ((count <<< 53) * 10 ^ 0) (-53) .exact)⟩ := by
    change Float.ofScientific count false 0 = _
    unfold Float.ofScientific
    rw [dif_neg (by omega)]
    change (⟨Float.Model.pack (UnpackedFloat.ofScientific Format.binary64 count 0)⟩ : Float) = _
    -- The exponent is not so low that the number would be zero.
    have least : ¬(0 : ℤ) < -(2 ^ Format.binary64.exponentBits + count.log2) := by
      change ¬(0 : ℤ) < -(2 ^ 11 + count.log2)
      omega
    unfold UnpackedFloat.ofScientific
    rw [dif_neg positive.ne', if_neg (by decide), if_neg least, if_pos le_rfl]
    rfl
  have digits : (count <<< 53) * 10 ^ 0 = count * 2 ^ 53 := by rw [pow_zero, mul_one, Nat.shiftLeft_eq]
  have fine : (-53 : ℤ) ≤ Format.binary64.targetExponent (totalExponent ((count <<< 53) * 10 ^ 0) (-53)) := by
    rw [targetExponent_eq, totalExponent, pow_zero, mul_one, log2_shiftLeft positive]
    omega
  obtain ⟨number, rounds⟩ := rounds_roundWithAccuracy .positive (by rw [digits]; positivity) fine
  have exact : ((Sign.positive.apply ((count <<< 53) * 10 ^ 0 : ℕ) : ℤ) : ℚ) * 2 ^ (-53 : ℤ) = count := by
    rw [digits, Sign.apply, Int.cast_natCast, Nat.cast_mul, mul_assoc]
    norm_num
  rw [exact] at rounds
  rw [converted, ← Bool.not_eq_true, isNaN_iff]
  exact ⟨number, rounds⟩

theorem unpackedValue_pack {u : UnpackedFloat} (proper : Proper u) (number : u ≠ .notANumber) :
    (Float.Model.pack u).unpack ≠ .notANumber ∧ unpackedValue (Float.Model.pack u).unpack = unpackedValue u := by
  by_cases finite : u.isFinite = true
  · obtain ⟨number, rounds⟩ := rounds_pack proper finite
    exact ⟨number, rounds.eq_of_representable (representable_unpackedValue proper)⟩
  · cases u with
    | infinity sign =>
      have packed : (Float.Model.pack (.infinity sign)).unpack = .infinity sign := unpack_packedInfinity sign
      rw [packed]
      exact ⟨number, rfl⟩
    | notANumber => exact absurd rfl number
    | zero sign => exact absurd rfl finite
    | finite sign mantissa exponent positive => exact absurd rfl finite

theorem value_neg (number : x.isNaN = false) : (-x).isNaN = false ∧ value (-x) = -value x := by
  have kept : x.toModel.unpack.neg ≠ .notANumber := by
    intro none
    rw [← Bool.not_eq_true, isNaN_iff] at number
    cases kind : x.toModel.unpack with
    | notANumber => exact number kind
    | _ =>
      rw [kind] at none
      cases none
  obtain ⟨negated, same⟩ := unpackedValue_pack (proper_neg (proper_unpack x.toModel)) kept
  rw [unpackedValue_neg] at same
  refine ⟨?_, same⟩
  rw [← Bool.not_eq_true, isNaN_iff]
  exact negated

/-- A whole number as a double is the number, rounded. -/
theorem rounds_ofInt (n : ℤ) : (Float.ofInt n).isNaN = false ∧ RoundsTo n (value (Float.ofInt n)) := by
  have natural (count : ℕ) : (Float.ofNat count).isNaN = false ∧ RoundsTo count (value (Float.ofNat count)) :=
    (lt_or_ge count (2 ^ 53)).elim rounds_ofNat_of_short rounds_ofNat_of_long
  cases n with
  | ofNat count => exact natural count
  | negSucc count =>
    obtain ⟨number, rounds⟩ := natural (count + 1)
    rw [Int.cast_negSucc]
    obtain ⟨number, opposite⟩ := value_neg number
    exact ⟨number, opposite ▸ rounds.neg⟩

/-! ## Whole numbers that are too large -/

theorem isFinite_ofInt : (Float.ofInt n).isFinite = true ↔ InRange n := by
  obtain ⟨number, rounds⟩ := rounds_ofInt n
  have representable := representable_value (Float.ofInt n)
  have middle : (2 ^ 54 - 1) * halfGrain = (((2 ^ 54 - 1) * 2 ^ 970 : ℕ) : ℚ) := by
    rw [halfGrain_eq, Nat.cast_mul, Nat.cast_pow, Nat.cast_ofNat, ← zpow_natCast, Nat.cast_ofNat]
    exact congrArg (· * (2 : ℚ) ^ (970 : ℤ)) (by norm_num)
  have bounded : InRange n ↔ (n : ℚ) < (2 ^ 54 - 1) * halfGrain ∧ -(n : ℚ) < (2 ^ 54 - 1) * halfGrain := by
    rw [middle, InRange]
    generalize (2 ^ 54 - 1) * 2 ^ 970 = bound
    rw [← Int.cast_natCast, ← Int.cast_neg, Int.cast_lt, Int.cast_lt]
    omega
  rw [isFinite_iff, and_iff_right number, abs_lt, neg_lt, rounds.lt_ceiling_iff representable,
    rounds.neg.lt_ceiling_iff representable.neg, bounded, and_comm]

theorem ofInt_cases (n : Int) : ofInt n = .ok (Float.ofInt n) ∨ ofInt n = .error .overflow := by
  unfold ofInt
  dsimp only
  split
  · exact .inr rfl
  · exact .inl rfl

/-- A whole number is a double, the nearest one, unless it is too large. -/
theorem ofInt_eq_ok : ofInt n = .ok x ↔ InRange n ∧ x = Float.ofInt n := by
  unfold ofInt
  dsimp only
  split
  · rename_i infinite
    refine iff_of_false nofun fun both => ?_
    have finite := isInf_of_isFinite (isFinite_ofInt.mpr both.1)
    rw [infinite] at finite
    cases finite
  · rename_i notInfinite
    have finite := isFinite_of_not (Bool.not_eq_true _ ▸ notInfinite) (rounds_ofInt n).1
    rw [Except.ok.injEq, eq_comm, and_iff_right (isFinite_ofInt.mp finite)]

theorem ofInt_eq_error {cause : ArithmeticFault} : ofInt n = .error cause ↔ ¬InRange n ∧ cause = .overflow := by
  rcases ofInt_cases n with rounded | overflow
  · rw [rounded]
    exact iff_of_false nofun fun both => both.1 (ofInt_eq_ok.mp rounded).1
  · have tooLarge : ¬InRange n := by
      intro inRange
      rw [ofInt_eq_ok.mpr ⟨inRange, rfl⟩] at overflow
      cases overflow
    rw [overflow, Except.error.injEq, and_iff_right tooLarge, eq_comm]

end PlantDrawing.Double
