import Mathlib.Algebra.Order.Field.Power
import Mathlib.Tactic.Positivity
import PlantDrawing.Proofs.NearestWhole

/-!
# The values of doubles

A double that is a number has a value. Those of the infinities are the least powers of two
that no finite double reaches, so that values are in the order of the doubles (`lt_iff`,
`le_iff`), and a double is finite if its value lies between them (`isFinite_iff`).
-/
namespace PlantDrawing.Double

open Float.Model Float.Model.UnpackedFloat

/-- The power of two beyond all finite doubles. It is not to be computed. -/
@[irreducible] def ceiling : ℚ := 2 ^ (1024 : ℤ)

theorem ceiling_eq : ceiling = 2 ^ (1024 : ℤ) := by
  unfold ceiling
  rfl

theorem ceiling_pos : 0 < ceiling := by
  rw [ceiling_eq]
  positivity

/-- The value of an unpacked double. -/
def unpackedValue : UnpackedFloat → ℚ
  | .infinity .positive => ceiling
  | .infinity .negative => -ceiling
  | .notANumber => 0
  | .zero _ => 0
  | .finite sign mantissa exponent _ => sign.apply mantissa * 2 ^ exponent

/-- The value of a double. -/
def value (x : Float) : ℚ := unpackedValue x.toModel.unpack

/-- A mantissa and an exponent that no other ones stand for the same number with. -/
structure Canonical (mantissa : Nat) (exponent : Int) : Prop where
  short : mantissa < 2 ^ 53
  lowest : -1074 ≤ exponent
  full : 2 ^ 52 ≤ mantissa ∨ exponent = -1074

/-- An unpacked double that a double can be. -/
def Proper : UnpackedFloat → Prop
  | .finite _ mantissa exponent _ => Canonical mantissa exponent ∧ exponent ≤ 971
  | _ => True

theorem proper_unpack_bits (bits : BitVec Format.binary64.numBits) :
    Proper (UnpackedFloat.unpack Format.binary64 bits) := by
  have places := (unpackMantissa bits).isLt
  change _ < 2 ^ 52 at places
  have high := (unpackExponent bits).isLt
  change _ < 2048 at high
  unfold UnpackedFloat.unpack
  dsimp only
  by_cases top : unpackExponent bits = -1#_
  · rw [if_pos top]
    by_cases empty : unpackMantissa bits = 0#_
    · rw [if_pos empty]
      trivial
    · rw [if_neg empty]
      trivial
  · rw [if_neg top]
    have notTop : (unpackExponent bits).toNat ≠ 2047 := by
      intro same
      exact top (BitVec.eq_of_toNat_eq same)
    by_cases bottom : unpackExponent bits = 0#_
    · rw [if_pos bottom]
      have zero : (unpackExponent bits).toNat = 0 := congrArg BitVec.toNat bottom
      by_cases empty : unpackMantissa bits = 0#_
      · rw [dif_pos empty]
        trivial
      · rw [dif_neg empty]
        have exponent : ((unpackExponent bits).toNat : Int) - 1075 + 1 = -1074 := by omega
        refine ⟨⟨by omega, ?_, .inr exponent⟩, ?_⟩
        · change -1074 ≤ ((unpackExponent bits).toNat : Int) - 1075 + 1
          omega
        · change ((unpackExponent bits).toNat : Int) - 1075 + 1 ≤ 971
          omega
    · rw [if_neg bottom]
      have some : (unpackExponent bits).toNat ≠ 0 := fun zero => bottom (BitVec.eq_of_toNat_eq zero)
      have implicit : (1#1 ++ unpackMantissa bits).toNat = 2 ^ 52 + (unpackMantissa bits).toNat := by
        rw [BitVec.toNat_append, ← Nat.shiftLeft_add_eq_or_of_lt places]
        rfl
      refine ⟨⟨?_, ?_, .inl ?_⟩, ?_⟩
      · rw [implicit]
        omega
      · change -1074 ≤ ((unpackExponent bits).toNat : Int) - 1075
        omega
      · rw [implicit]
        omega
      · change ((unpackExponent bits).toNat : Int) - 1075 ≤ 971
        omega

theorem proper_unpack (model : Float.Model) : Proper model.unpack := proper_unpack_bits model.toBits.toBitVec

/-! ## Magnitudes -/

section
variable {mantissa mantissa' : Nat} {exponent exponent' : Int}

theorem magnitude_pos (exponent : Int) (positive : 0 < mantissa) : (0 : ℚ) < mantissa * 2 ^ exponent := by
  have : (0 : ℚ) < mantissa := by exact_mod_cast positive
  positivity

theorem magnitude_lt_of_short (short : mantissa < 2 ^ 53) :
    (mantissa : ℚ) * 2 ^ exponent < 2 ^ (exponent + 53) := by
  have fewer : (mantissa : ℚ) < 2 ^ (53 : ℤ) := by exact_mod_cast short
  rw [zpow_add₀ (by norm_num), mul_comm]
  exact mul_lt_mul_of_pos_left fewer (by positivity)

theorem magnitude_lt_ceiling (short : mantissa < 2 ^ 53) (highest : exponent ≤ 971) :
    (mantissa : ℚ) * 2 ^ exponent < ceiling :=
  ceiling_eq ▸ (magnitude_lt_of_short short).trans_le (zpow_le_zpow_right₀ (by norm_num) (by omega))

theorem le_magnitude_of_full (full : 2 ^ 52 ≤ mantissa) :
    (2 : ℚ) ^ (exponent + 52) ≤ mantissa * 2 ^ exponent := by
  have more : (2 : ℚ) ^ (52 : ℤ) ≤ mantissa := by exact_mod_cast full
  rw [zpow_add₀ (by norm_num), mul_comm]
  exact mul_le_mul_of_nonneg_right more (by positivity)

/-- A greater exponent makes a canonical number greater, whatever the mantissas are. -/
theorem magnitude_lt_of_exponent (canonical : Canonical mantissa exponent)
    (canonical' : Canonical mantissa' exponent') (less : exponent < exponent') :
    (mantissa : ℚ) * 2 ^ exponent < mantissa' * 2 ^ exponent' := by
  have full : 2 ^ 52 ≤ mantissa' := canonical'.full.resolve_right (by have := canonical.lowest; omega)
  calc (mantissa : ℚ) * 2 ^ exponent < 2 ^ (exponent + 53) := magnitude_lt_of_short canonical.short
    _ ≤ 2 ^ (exponent' + 52) := zpow_le_zpow_right₀ (by norm_num) (by omega)
    _ ≤ mantissa' * 2 ^ exponent' := le_magnitude_of_full full

theorem compare_magnitudes (canonical : Canonical mantissa exponent) (canonical' : Canonical mantissa' exponent') :
    (compare exponent exponent').then (compare mantissa mantissa') =
      compare ((mantissa : ℚ) * 2 ^ exponent) (mantissa' * 2 ^ exponent') := by
  have scale : (0 : ℚ) < 2 ^ exponent := by positivity
  rcases lt_trichotomy exponent exponent' with less | rfl | greater
  · rw [compare_lt_iff_lt.mpr less, compare_lt_iff_lt.mpr (magnitude_lt_of_exponent canonical canonical' less)]
    rfl
  · rw [compare_eq_iff_eq.mpr rfl]
    rcases lt_trichotomy mantissa mantissa' with less | rfl | greater
    · have below : (mantissa : ℚ) * 2 ^ exponent < mantissa' * 2 ^ exponent :=
        mul_lt_mul_of_pos_right (by exact_mod_cast less) scale
      rw [compare_lt_iff_lt.mpr less, compare_lt_iff_lt.mpr below]
      rfl
    · rw [compare_eq_iff_eq.mpr rfl, compare_eq_iff_eq.mpr rfl]
      rfl
    · have above : (mantissa' : ℚ) * 2 ^ exponent < mantissa * 2 ^ exponent :=
        mul_lt_mul_of_pos_right (by exact_mod_cast greater) scale
      rw [compare_gt_iff_gt.mpr greater, compare_gt_iff_gt.mpr above]
      rfl
  · rw [compare_gt_iff_gt.mpr greater, compare_gt_iff_gt.mpr (magnitude_lt_of_exponent canonical' canonical greater)]
    rfl

end

/-! ## The order of doubles -/

section
variable {u v : UnpackedFloat} {sign : Sign} {mantissa mantissa' : Nat} {exponent exponent' : Int}
  {positive : 0 < mantissa} {positive' : 0 < mantissa'}

theorem unpackedValue_positive :
    unpackedValue (.finite .positive mantissa exponent positive) = mantissa * 2 ^ exponent := by
  change ((mantissa : ℤ) : ℚ) * 2 ^ exponent = mantissa * 2 ^ exponent
  rw [Int.cast_natCast]

theorem unpackedValue_negative :
    unpackedValue (.finite .negative mantissa exponent positive) = -(mantissa * 2 ^ exponent) := by
  change ((-mantissa : ℤ) : ℚ) * 2 ^ exponent = -(mantissa * 2 ^ exponent)
  rw [Int.cast_neg, Int.cast_natCast, neg_mul]

theorem compare_same_sign (canonical : Canonical mantissa exponent) (canonical' : Canonical mantissa' exponent') :
    UnpackedFloat.compare (.finite sign mantissa exponent positive) (.finite sign mantissa' exponent' positive') =
      some (compare (unpackedValue (.finite sign mantissa exponent positive))
        (unpackedValue (.finite sign mantissa' exponent' positive'))) := by
  have alike := compare_magnitudes canonical canonical'
  cases sign with
  | positive =>
    rw [unpackedValue_positive, unpackedValue_positive]
    exact congrArg some alike
  | negative =>
    have swapped : compare (-((mantissa : ℚ) * 2 ^ exponent)) (-(mantissa' * 2 ^ exponent')) =
        (compare ((mantissa : ℚ) * 2 ^ exponent) (mantissa' * 2 ^ exponent')).swap := by
      rcases lt_trichotomy ((mantissa : ℚ) * 2 ^ exponent) (mantissa' * 2 ^ exponent') with less | same | greater
      · rw [compare_lt_iff_lt.mpr less, compare_gt_iff_gt.mpr (neg_lt_neg less)]
        rfl
      · rw [same, compare_eq_iff_eq.mpr rfl, compare_eq_iff_eq.mpr rfl]
        rfl
      · rw [compare_gt_iff_gt.mpr greater, compare_lt_iff_lt.mpr (neg_lt_neg greater)]
        rfl
    rw [unpackedValue_negative, unpackedValue_negative, swapped, ← alike]
    rfl

/-- The five kinds of doubles that are numbers, from the least to the greatest. -/
theorem value_cases (proper : Proper u) (number : u ≠ .notANumber) :
    (u = .infinity .negative ∧ unpackedValue u = -ceiling) ∨
      (∃ mantissa exponent positive, u = .finite .negative mantissa exponent positive ∧
        Canonical mantissa exponent ∧ -ceiling < unpackedValue u ∧ unpackedValue u < 0) ∨
      (∃ sign, u = .zero sign ∧ unpackedValue u = 0) ∨
      (∃ mantissa exponent positive, u = .finite .positive mantissa exponent positive ∧
        Canonical mantissa exponent ∧ 0 < unpackedValue u ∧ unpackedValue u < ceiling) ∨
      (u = .infinity .positive ∧ unpackedValue u = ceiling) := by
  rcases u with (_ | _) | _ | sign | ⟨_ | _, mantissa, exponent, positive⟩
  · exact .inl ⟨rfl, rfl⟩
  · exact .inr (.inr (.inr (.inr ⟨rfl, rfl⟩)))
  · exact absurd rfl number
  · exact .inr (.inr (.inl ⟨sign, rfl, rfl⟩))
  · have more := magnitude_pos exponent positive
    have less := magnitude_lt_ceiling proper.1.short proper.2
    refine .inr (.inl ⟨mantissa, exponent, positive, rfl, proper.1, ?_, ?_⟩) <;>
      rw [unpackedValue_negative] <;> linarith
  · refine .inr (.inr (.inr (.inl ⟨mantissa, exponent, positive, rfl, proper.1, ?_, ?_⟩))) <;>
      rw [unpackedValue_positive]
    · exact magnitude_pos exponent positive
    · exact magnitude_lt_ceiling proper.1.short proper.2

/-- Doubles compare as their values do. -/
theorem compare_eq (uProper : Proper u) (vProper : Proper v) (uNumber : u ≠ .notANumber) (vNumber : v ≠ .notANumber) :
    u.compare v = some (compare (unpackedValue u) (unpackedValue v)) := by
  have top := ceiling_pos
  have less {a b : ℚ} (before : a < b) : some Ordering.lt = some (compare a b) :=
    congrArg some (compare_lt_iff_lt.mpr before).symm
  have same {a b : ℚ} (equal : a = b) : some Ordering.eq = some (compare a b) :=
    congrArg some (compare_eq_iff_eq.mpr equal).symm
  have more {a b : ℚ} (after : b < a) : some Ordering.gt = some (compare a b) :=
    congrArg some (compare_gt_iff_gt.mpr after).symm
  -- Two finite doubles of one sign compare by their magnitudes, all others by their kinds.
  rcases value_cases uProper uNumber with ⟨rfl, _⟩ | ⟨m, e, p, rfl, canonical, _, _⟩ | ⟨s, rfl, _⟩ |
      ⟨m, e, p, rfl, canonical, _, _⟩ | ⟨rfl, _⟩ <;>
    rcases value_cases vProper vNumber with ⟨rfl, _⟩ | ⟨m', e', p', rfl, canonical', _, _⟩ | ⟨s', rfl, _⟩ |
        ⟨m', e', p', rfl, canonical', _, _⟩ | ⟨rfl, _⟩ <;>
      first
        | exact compare_same_sign canonical canonical'
        | exact less (by linarith)
        | exact same (by linarith)
        | exact more (by linarith)

end

section
variable {x y : Float}

theorem isNaN_iff : x.isNaN = true ↔ x.toModel.unpack = .notANumber := by
  change x.toModel.unpack.isNaN = true ↔ _
  cases x.toModel.unpack with
  | notANumber => exact iff_of_true rfl rfl
  | _ =>
    refine iff_of_false Bool.false_ne_true ?_
    intro same
    cases same

theorem compare_values (xNumber : x.isNaN = false) (yNumber : y.isNaN = false) :
    x.toModel.unpack.compare y.toModel.unpack = some (compare (value x) (value y)) := by
  refine compare_eq (proper_unpack _) (proper_unpack _) (fun none => ?_) (fun none => ?_)
  · rw [isNaN_iff.mpr none] at xNumber
    cases xNumber
  · rw [isNaN_iff.mpr none] at yNumber
    cases yNumber

theorem compare_none (none : x.isNaN = true ∨ y.isNaN = true) :
    x.toModel.unpack.compare y.toModel.unpack = .none := by
  rcases none with none | none
  · rw [isNaN_iff.mp none]
    rfl
  · rw [isNaN_iff.mp none]
    cases x.toModel.unpack with
    | finite sign => cases sign <;> rfl
    | infinity sign => cases sign <;> rfl
    | _ => rfl

/-- Doubles are unordered, or both are numbers and compare as their values do. -/
theorem compare_cases (x y : Float) :
    (¬(x.isNaN = false ∧ y.isNaN = false) ∧ x.toModel.unpack.compare y.toModel.unpack = .none) ∨
      (x.isNaN = false ∧ y.isNaN = false ∧
        x.toModel.unpack.compare y.toModel.unpack = some (compare (value x) (value y))) := by
  rcases Bool.eq_false_or_eq_true x.isNaN with xNone | xNumber
  · exact .inl ⟨fun numbers => Bool.noConfusion (xNone.symm.trans numbers.1), compare_none (.inl xNone)⟩
  · rcases Bool.eq_false_or_eq_true y.isNaN with yNone | yNumber
    · exact .inl ⟨fun numbers => Bool.noConfusion (yNone.symm.trans numbers.2), compare_none (.inr yNone)⟩
    · exact .inr ⟨xNumber, yNumber, compare_values xNumber yNumber⟩

theorem lt_iff : x < y ↔ x.isNaN = false ∧ y.isNaN = false ∧ value x < value y := by
  have unfolded : x < y ↔ (x.toModel.unpack.compare y.toModel.unpack == some .lt) = true := decide_eq_true_iff
  rw [unfolded, ← and_assoc]
  rcases compare_cases x y with ⟨unordered, compared⟩ | ⟨xNumber, yNumber, compared⟩
  · rw [compared]
    exact iff_of_false Bool.false_ne_true fun both => unordered both.1
  · rw [compared, and_iff_right ⟨xNumber, yNumber⟩, beq_iff_eq, Option.some_inj, compare_lt_iff_lt]

theorem le_iff : x ≤ y ↔ x.isNaN = false ∧ y.isNaN = false ∧ value x ≤ value y := by
  have unfolded : x ≤ y ↔ (x.toModel.unpack.compare y.toModel.unpack).any (·.isLE) = true := decide_eq_true_iff
  rw [unfolded, ← and_assoc]
  rcases compare_cases x y with ⟨unordered, compared⟩ | ⟨xNumber, yNumber, compared⟩
  · rw [compared]
    exact iff_of_false Bool.false_ne_true fun both => unordered both.1
  · rw [compared, and_iff_right ⟨xNumber, yNumber⟩, Option.any_some, Ordering.isLE_iff_ne_gt,
      compare_gt_iff_gt, not_lt]

theorem beq_iff : (x == y) = true ↔ x.isNaN = false ∧ y.isNaN = false ∧ value x = value y := by
  change (x.toModel.unpack.compare y.toModel.unpack == some .eq) = true ↔ _
  rw [← and_assoc]
  rcases compare_cases x y with ⟨unordered, compared⟩ | ⟨xNumber, yNumber, compared⟩
  · rw [compared]
    exact iff_of_false Bool.false_ne_true fun both => unordered both.1
  · rw [compared, and_iff_right ⟨xNumber, yNumber⟩, beq_iff_eq, Option.some_inj, compare_eq_iff_eq]

theorem value_zero : value 0 = 0 := by decide +kernel

theorem value_one : value 1 = 1 := by decide +kernel

theorem value_infinity : value infinity = ceiling := rfl

theorem value_neg_infinity : value (-infinity) = -ceiling := rfl

theorem value_pos (positive : 0 < x) : 0 < value x := value_zero ▸ (lt_iff.mp positive).2.2

theorem value_nonneg (nonneg : 0 ≤ x) : 0 ≤ value x := value_zero ▸ (le_iff.mp nonneg).2.2

theorem isFinite_iff : x.isFinite = true ↔ x.isNaN = false ∧ |value x| < ceiling := by
  have top := ceiling_pos
  change x.toModel.unpack.isFinite = true ↔ x.toModel.unpack.isNaN = false ∧ |unpackedValue x.toModel.unpack| < ceiling
  have proper := proper_unpack x.toModel
  generalize x.toModel.unpack = u at proper
  by_cases none : u = .notANumber
  · subst none
    exact iff_of_false Bool.false_ne_true fun both => Bool.false_ne_true both.1.symm
  · rcases value_cases proper none with ⟨rfl, same⟩ | ⟨m, e, p, rfl, -, least, most⟩ | ⟨s, rfl, same⟩ |
      ⟨m, e, p, rfl, -, least, most⟩ | ⟨rfl, same⟩
    · refine iff_of_false Bool.false_ne_true fun both => both.2.ne ?_
      rw [same, abs_neg, abs_of_pos top]
    · refine iff_of_true rfl ⟨rfl, ?_⟩
      rw [abs_of_neg most]
      linarith
    · refine iff_of_true rfl ⟨rfl, ?_⟩
      rw [same, abs_zero]
      exact top
    · refine iff_of_true rfl ⟨rfl, ?_⟩
      rw [abs_of_pos least]
      exact most
    · refine iff_of_false Bool.false_ne_true fun both => both.2.ne ?_
      rw [same, abs_of_pos top]

/-- A double is infinite, no number, or finite. -/
theorem isFinite_of_not (notInfinite : x.isInf = false) (number : x.isNaN = false) : x.isFinite = true := by
  change x.toModel.unpack.isInf = false at notInfinite
  change x.toModel.unpack.isNaN = false at number
  change x.toModel.unpack.isFinite = true
  cases kind : x.toModel.unpack with
  | infinity sign =>
    rw [kind] at notInfinite
    cases notInfinite
  | notANumber =>
    rw [kind] at number
    cases number
  | zero sign => rfl
  | finite sign mantissa exponent positive => rfl

theorem isInf_of_isFinite (finite : x.isFinite = true) : x.isInf = false := by
  change x.toModel.unpack.isFinite = true at finite
  change x.toModel.unpack.isInf = false
  cases kind : x.toModel.unpack with
  | infinity sign =>
    rw [kind] at finite
    cases finite
  | notANumber => rfl
  | zero sign => rfl
  | finite sign mantissa exponent positive => rfl

theorem isNaN_of_isFinite (finite : x.isFinite = true) : x.isNaN = false := (isFinite_iff.mp finite).1

end

end PlantDrawing.Double
