import PlantDrawing.Proofs.DecimalText
import PlantDrawing.Proofs.DoubleSizes

/-!
# Canonical numerals

The text of a finite double is in its shortest form: no zero stands in front of other digits or
at the end of a fraction, and zero has no sign (`IsCanonical`). It reads as the multiple of the
last place that is nearest to the value of the double, however many places are asked for: past
the places that a double can fill nothing is rounded (`read_text_unlimited`). So the text tells
this multiple and nothing else of the double (`text_eq_of_read`).
-/
namespace PlantDrawing.Decimal

open Double (value)

/-- The digits of a whole number in their shortest form: a zero in front stands alone. -/
structure IsWhole (text : List Char) : Prop where
  nonempty : text ≠ []
  digits : ∀ c ∈ text, Numeral.isDigit c = true
  noLeadingZero : text.head? = some '0' → text = ['0']

/-- The digits of a fraction in their shortest form: no more than so many, with no zero at the
    end. -/
structure IsFraction (places : Nat) (text : List Char) : Prop where
  nonempty : text ≠ []
  most : text.length ≤ places
  digits : ∀ c ∈ text, Numeral.isDigit c = true
  noTrailingZero : text.getLast? ≠ some '0'

/-- A text is a numeral in its shortest form, with a sign or without, with a point and a fraction
    or without, and is not the zero with a sign. -/
structure IsCanonical (places : Nat) (text : String) : Prop where
  shape : ∃ sign whole behind, text.toList = sign ++ whole ++ behind ∧ (sign = [] ∨ sign = ['-']) ∧ IsWhole whole ∧
    (behind = [] ∨ ∃ fraction, behind = '.' :: fraction ∧ IsFraction places fraction)
  notMinusZero : text ≠ "-0"

/-- A double is printed as a canonical numeral of a number: the multiple of the last place that is
    nearest to it, of two equally near ones the even multiple. -/
structure PrintedAs (x : Float) (places : Nat) (text : String) (number : ℚ) : Prop where
  canonical : IsCanonical places text
  reads : read text = some number
  nearest : ∃ count : ℤ, number = count / 10 ^ places ∧ IsNearest (value x * 10 ^ places) count

variable {x y : Float} {n units places : Nat}

/-! ## Shortest forms -/

theorem getLast_toDigits (n : Nat) : (Nat.toDigits 10 n).getLast? = some (Nat.digitChar (n % 10)) := by
  by_cases small : n < 10
  · rw [Nat.toDigits_of_lt_base small, Nat.mod_eq_of_lt small]
    rfl
  · rw [Nat.toDigits_of_base_le (by decide) (by omega), List.getLast?_concat]

theorem digitChar_ne_zero : ∀ digit < 10, 0 < digit → Nat.digitChar digit ≠ '0' := by decide

theorem head_toDigits (positive : 0 < n) : (Nat.toDigits 10 n).head? ≠ some '0' := by
  induction n using Nat.strongRecOn with
  | _ n ih =>
    by_cases small : n < 10
    · rw [Nat.toDigits_of_lt_base small]
      exact fun zero => digitChar_ne_zero n small positive (Option.some.inj zero)
    · rw [Nat.toDigits_of_base_le (by decide) (by omega), List.head?_append_of_ne_nil _ Nat.toDigits_ne_nil]
      exact ih (n / 10) (by omega) (by omega)

theorem isWhole_toDigits (n : Nat) : IsWhole (Nat.toDigits 10 n) := by
  refine ⟨Nat.toDigits_ne_nil, fun _ member => isDigit_of_mem_toDigits member, fun zero => ?_⟩
  rcases Nat.eq_zero_or_pos n with rfl | positive
  · rfl
  · exact absurd zero (head_toDigits positive)

theorem isFraction_paddedDigits {most : Nat} (broken : 0 < places) (fits : places ≤ most) (ends : units % 10 ≠ 0) :
    IsFraction most (paddedDigits places (units % 10 ^ places)) := by
  have length := length_paddedDigits broken (Nat.mod_lt units (by positivity))
  refine ⟨?_, length.trans_le fits, fun _ => List.all_eq_true.mp all_isDigit_paddedDigits _, ?_⟩
  · rw [← List.length_pos_iff, length]
    exact broken
  · have last : units % 10 ^ places % 10 = units % 10 := Nat.mod_mod_of_dvd units (dvd_pow_self 10 (by omega))
    unfold paddedDigits
    dsimp only
    rw [List.getLast?_append_of_ne_nil _ Nat.toDigits_ne_nil, getLast_toDigits, last]
    exact fun zero => digitChar_ne_zero _ (Nat.mod_lt _ (by decide)) (by omega) (Option.some.inj zero)

theorem trimUnits_ends (units places : Nat) :
    (trimUnits units places).2 ≤ places ∧
      ((trimUnits units places).2 = 0 ∨ (trimUnits units places).1 % 10 ≠ 0) := by
  induction places generalizing units with
  | zero => exact ⟨Nat.le_refl 0, .inl rfl⟩
  | succ places ih =>
    rw [trimUnits]
    split
    · obtain ⟨fewer, ends⟩ := ih (units / 10)
      exact ⟨Nat.le_succ_of_le fewer, ends⟩
    · rename_i ends
      exact ⟨Nat.le_refl _, .inr ends⟩

/-- A numeral without zeros at its end is canonical. -/
theorem isCanonical_numeral {d : Decimal} (fits : d.places ≤ places) (ends : d.places = 0 ∨ d.units % 10 ≠ 0) :
    IsCanonical places (String.ofList d.numeral) := by
  constructor
  · refine ⟨d.sign, _, d.fraction, String.toList_ofList, ?_, isWhole_toDigits _, ?_⟩
    · unfold sign
      split
      · exact .inr rfl
      · exact .inl rfl
    · unfold fraction
      split
      · exact .inl rfl
      · rename_i broken
        exact .inr ⟨_, rfl, isFraction_paddedDigits (Nat.pos_of_ne_zero broken) fits (ends.resolve_left broken)⟩
  · intro minusZero
    -- What reads as zero has no units, and so it has no sign either.
    have zero : d.number = 0 := by
      have reads := read_numeral d
      rw [minusZero] at reads
      exact Option.some.inj (reads.symm.trans (by decide +kernel : read "-0" = some 0))
    have unsigned : d.sign = [] := by
      refine if_neg fun signed => signed.2 ?_
      have scale : (10 : ℚ) ^ d.places ≠ 0 := by positivity
      have units : (if d.negative then -(d.units : ℚ) else d.units) = 0 := (div_eq_zero_iff.mp zero).resolve_right scale
      rw [if_pos signed.1, neg_eq_zero] at units
      exact_mod_cast units
    have text : d.numeral = "-0".toList := by rw [← minusZero, String.toList_ofList]
    rw [numeral, unsigned, List.nil_append] at text
    exact head_toDigits_ne_minus _ text

theorem isCanonical_text (finite : x.isFinite = true) (places : Nat) : IsCanonical places (text x places) := by
  obtain ⟨e, known⟩ := Option.isSome_iff_exists.mp (exactValue_isSome.trans finite)
  rw [text, known]
  obtain ⟨fewer, ends⟩ := trimUnits_ends (nearestUnits e (min places usefulPlaces)) (min places usefulPlaces)
  exact isCanonical_numeral (fewer.trans (min_le_left _ _)) ends

/-! ## Places that no double fills -/

/-- No double has more places than the useful ones. -/
theorem value_whole (x : Float) : ∃ count : ℤ, value x * 10 ^ usefulPlaces = count := by
  obtain ⟨count, same⟩ := (Double.representable_value x).whole
  have smallest : (2 : ℚ) ^ (-1074 : ℤ) = (2 ^ usefulPlaces)⁻¹ := by
    rw [← zpow_natCast, ← zpow_neg]
    rfl
  have split : (10 : ℚ) ^ usefulPlaces = 2 ^ usefulPlaces * 5 ^ usefulPlaces := by
    rw [← mul_pow]
    norm_num only
  have scale : (2 : ℚ) ^ usefulPlaces ≠ 0 := by positivity
  refine ⟨count * 5 ^ usefulPlaces, ?_⟩
  rw [same, smallest, split, mul_assoc, inv_mul_cancel_left₀ scale]
  push_cast
  rfl

/-- The text of a finite double reads as the nearest decimal, whatever number of places is asked
    for. -/
theorem read_text_unlimited (finite : x.isFinite = true) (places : Nat) :
    ∃ count : ℤ, IsNearest (value x * 10 ^ places) count ∧ read (text x places) = some ((count : ℚ) / 10 ^ places) := by
  rcases Nat.le_total places usefulPlaces with useful | more
  · exact read_text finite useful
  · obtain ⟨count, near, reads⟩ := read_text finite (Nat.le_refl usefulPlaces)
    obtain ⟨whole, exactly⟩ := value_whole x
    rw [exactly] at near
    obtain rfl := (IsNearest.whole whole).unique near
    have same : text x places = text x usefulPlaces := by
      rw [text, text, min_eq_right more, min_self]
    obtain ⟨further, rfl⟩ := Nat.exists_eq_add_of_le more
    have scaled : value x * 10 ^ (usefulPlaces + further) = (whole * 10 ^ further : ℤ) := by
      rw [pow_add, ← mul_assoc, exactly]
      push_cast
      rfl
    refine ⟨whole * 10 ^ further, scaled ▸ IsNearest.whole _, ?_⟩
    have tens : (10 : ℚ) ^ further ≠ 0 := by positivity
    rw [same, reads, pow_add]
    push_cast
    rw [mul_div_mul_right _ _ tens]

theorem printedAs_text (finite : x.isFinite = true) (places : Nat) :
    ∃ number, PrintedAs x places (text x places) number := by
  obtain ⟨count, near, reads⟩ := read_text_unlimited finite places
  exact ⟨_, isCanonical_text finite places, reads, count, rfl, near⟩

/-! ## Texts and numbers -/

theorem trimUnits_zero (places : Nat) : (trimUnits 0 places).1 = 0 := by
  induction places with
  | zero => rfl
  | succ places ih => exact ih

/-- Zero has one numeral, whatever its sign is. -/
theorem numeral_trim_zero (negative negative' : Bool) (places : Nat) :
    (trim ⟨negative, 0, places⟩).numeral = (trim ⟨negative', 0, places⟩).numeral := by
  have unsigned (negative : Bool) : (trim ⟨negative, 0, places⟩).sign = [] :=
    if_neg fun signed => signed.2 (trimUnits_zero places)
  rw [numeral, numeral, unsigned, unsigned]
  rfl

/-- Numbers with equally many places have one numeral if they are equal. -/
theorem numeral_trim_congr {d e : Decimal} (alike : d.places = e.places) (number : d.number = e.number) :
    d.trim.numeral = e.trim.numeral := by
  obtain ⟨negative, units, places⟩ := d
  obtain ⟨negative', units', places'⟩ := e
  obtain rfl : places = places' := alike
  have scale : (10 : ℚ) ^ places ≠ 0 := by positivity
  have signed : (if negative then -(units : ℚ) else units) = if negative' then -(units' : ℚ) else units' :=
    (div_left_inj' scale).mp number
  have least : (0 : ℚ) ≤ units := Nat.cast_nonneg units
  have least' : (0 : ℚ) ≤ units' := Nat.cast_nonneg units'
  have zeros (none : (units : ℚ) = 0) (none' : (units' : ℚ) = 0) :
      (trim ⟨negative, units, places⟩).numeral = (trim ⟨negative', units', places⟩).numeral := by
    rw [Nat.cast_eq_zero.mp none, Nat.cast_eq_zero.mp none']
    exact numeral_trim_zero negative negative' places
  cases negative with
  | false =>
    cases negative' with
    | false => rw [Nat.cast_inj.mp signed]
    | true =>
      change (units : ℚ) = -units' at signed
      exact zeros (by linarith) (by linarith)
  | true =>
    cases negative' with
    | false =>
      change -(units : ℚ) = units' at signed
      exact zeros (by linarith) (by linarith)
    | true => rw [Nat.cast_inj.mp (neg_inj.mp signed)]

/-- Texts with equally many places that read as the same number are the same. -/
theorem text_eq_of_read (xFinite : x.isFinite = true) (yFinite : y.isFinite = true)
    (same : read (text x places) = read (text y places)) : text x places = text y places := by
  obtain ⟨d, dKnown⟩ := Option.isSome_iff_exists.mp (exactValue_isSome.trans xFinite)
  obtain ⟨e, eKnown⟩ := Option.isSome_iff_exists.mp (exactValue_isSome.trans yFinite)
  rw [text, text, dKnown, eKnown] at same ⊢
  simp only [read_numeral, number_trim, Option.some.injEq] at same
  exact congrArg String.ofList (numeral_trim_congr rfl same)

theorem print_eq_ok {precision : Int} (least : 0 ≤ precision) (most : precision ≤ mostPlaces) :
    print x precision = .ok (text x precision.toNat) := by
  have checked : checkPlaces precision = .ok precision.toNat := if_neg (by omega)
  rw [print, checked]
  rfl

/-- Finite doubles are printed as canonical numerals of the nearest numbers with as many places as
    are asked for, if so many may be. Two of them have the same text just if these numbers are the
    same, and the numbers are in the order of the doubles. -/
theorem print_nearest {precision : Int} (least : 0 ≤ precision) (most : precision ≤ mostPlaces)
    (xFinite : x.isFinite = true) (yFinite : y.isFinite = true) :
    ∃ first second p q, print x precision = .ok first ∧ print y precision = .ok second ∧
      PrintedAs x precision.toNat first p ∧ PrintedAs y precision.toNat second q ∧
      (first = second ↔ p = q) ∧ (x ≤ y → p ≤ q) := by
  obtain ⟨p, first⟩ := printedAs_text xFinite precision.toNat
  obtain ⟨q, second⟩ := printedAs_text yFinite precision.toNat
  refine ⟨_, _, p, q, print_eq_ok least most, print_eq_ok least most, first, second, ⟨fun same => ?_, ?_⟩,
    fun ordered => ?_⟩
  · exact Option.some.inj (first.reads.symm.trans ((congrArg read same).trans second.reads))
  · rintro rfl
    exact text_eq_of_read xFinite yFinite (first.reads.trans second.reads.symm)
  · obtain ⟨count, rfl, near⟩ := first.nearest
    obtain ⟨count', rfl, near'⟩ := second.nearest
    have counted : count ≤ count' := near.mono near' (by gcongr; exact (Double.le_iff.mp ordered).2.2)
    gcongr

/-- A small negative number, which is printed as zero, and one in the middle between two numbers of
    two places. -/
theorem print_tiny_and_half :
    (0 : Int) ≤ 2 ∧ 2 ≤ mostPlaces ∧ Float.isFinite (-0.004) = true ∧ Float.isFinite 0.125 = true ∧
      print (-0.004) 2 = .ok "0" ∧ print 0.125 2 = .ok "0.12" ∧
      ∃ p q, PrintedAs (-0.004) 2 "0" p ∧ PrintedAs 0.125 2 "0.12" q ∧ ("0" = "0.12" ↔ p = q) ∧ p ≤ q := by
  have least : (0 : Int) ≤ 2 := by decide
  have most : 2 ≤ mostPlaces := by decide
  have tinyFinite : Float.isFinite (-0.004) = true := by decide +kernel
  have halfFinite : Float.isFinite 0.125 = true := by decide +kernel
  have tiny : print (-0.004) 2 = .ok "0" := by rw [print_eq_ok least most]; decide +kernel
  have half : print 0.125 2 = .ok "0.12" := by rw [print_eq_ok least most]; decide +kernel
  obtain ⟨first, second, p, q, tinyPrinted, halfPrinted, one, other, alike, ordered⟩ :=
    print_nearest least most tinyFinite halfFinite
  obtain rfl : "0" = first := Except.ok.inj (tiny.symm.trans tinyPrinted)
  obtain rfl : "0.12" = second := Except.ok.inj (half.symm.trans halfPrinted)
  exact ⟨least, most, tinyFinite, halfFinite, tiny, half, p, q, one, other, alike, ordered (by decide +kernel)⟩

end PlantDrawing.Decimal
