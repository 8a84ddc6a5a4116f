import Mathlib.Tactic.Ring
import PlantDrawing.Numeral
import PlantDrawing.Proofs.DoubleValue

/-!
# Doubles as decimal texts

A text of digits, with a sign in front or none and with further digits behind a point or
none, reads as a number. The text of a finite double reads as the decimal nearest to the
value of the double (`read_text`); that of an infinite one, or of the one that is no number,
does not read at all.
-/
namespace PlantDrawing.Decimal

/-! ## Reading -/

/-- The number that digits stand for, with further digits behind a point or without. -/
def readMagnitude (text : List Char) : Option ℚ :=
  match Numeral.span text with
  | ([], _) => none
  | (whole, []) => some (Numeral.value whole)
  | (whole, '.' :: fraction) =>
    if fraction ≠ [] ∧ fraction.all Numeral.isDigit then
      some (Numeral.value (whole ++ fraction) / 10 ^ fraction.length)
    else none
  | _ => none

/-- The number that a plain numeral stands for: a magnitude, or one with a sign. -/
def read (text : String) : Option ℚ :=
  match text.toList with
  | '-' :: magnitude => (readMagnitude magnitude).map (-·)
  | magnitude => readMagnitude magnitude

example : read "-12.50" = some (-25 / 2) := by decide +kernel

/-- The number that a decimal number is. -/
def number (d : Decimal) : ℚ := (if d.negative then -(d.units : ℚ) else d.units) / 10 ^ d.places

/-! ## Digits -/

variable {digits rest : List Char} {n places : Nat}

theorem isDigit_of_mem_toDigits {c : Char} (member : c ∈ Nat.toDigits 10 n) : Numeral.isDigit c = true := by
  have digit := Nat.isDigit_of_mem_toDigits (by decide) (by decide) member
  simp only [Char.isDigit, Bool.and_eq_true, decide_eq_true_eq] at digit
  simp only [Numeral.isDigit, Bool.and_eq_true, decide_eq_true_eq]
  exact digit

theorem value_eq (digits : List Char) : Numeral.value digits = Nat.ofDigitChars 10 digits 0 := rfl

theorem value_toDigits (n : Nat) : Numeral.value (Nat.toDigits 10 n) = n := Nat.ofDigitChars_ten_toDigits

theorem value_append (first second : List Char) :
    Numeral.value (first ++ second) = 10 ^ second.length * Numeral.value first + Numeral.value second := by
  rw [value_eq, Nat.ofDigitChars_append, Nat.ofDigitChars_eq_ofDigitChars_zero]
  rfl

theorem length_paddedDigits (broken : 0 < places) (small : n < 10 ^ places) : (paddedDigits places n).length = places := by
  have fits := (Nat.length_toDigits_le_iff (b := 10) (by decide) broken).mpr small
  simp only [paddedDigits, List.length_append, List.length_replicate]
  omega

theorem value_paddedDigits (n : Nat) : Numeral.value (paddedDigits places n) = n := by
  unfold paddedDigits
  dsimp only
  rw [value_append, value_toDigits, value_eq, Nat.ofDigitChars_replicate_zero, mul_zero, mul_zero, zero_add]

theorem all_isDigit_paddedDigits : (paddedDigits places n).all Numeral.isDigit := by
  unfold paddedDigits
  dsimp only
  rw [List.all_append, Bool.and_eq_true, List.all_replicate, List.all_eq_true]
  refine ⟨?_, fun _ member => isDigit_of_mem_toDigits member⟩
  split <;> rfl

theorem span_toDigits (ends : ∀ c ∈ rest.head?, Numeral.isDigit c = false) :
    Numeral.span (Nat.toDigits 10 n ++ rest) = (Nat.toDigits 10 n, rest) := by
  have all : ∀ c ∈ Nat.toDigits 10 n, Numeral.isDigit c = true := fun _ member => isDigit_of_mem_toDigits member
  unfold Numeral.span
  rw [List.takeWhile_append_of_pos all, List.dropWhile_append_of_pos all]
  cases rest with
  | nil => simp
  | cons c rest => simp [ends c rfl]

/-! ## Numerals -/

theorem readMagnitude_whole (n : Nat) : readMagnitude (Nat.toDigits 10 n) = some (n : ℚ) := by
  have spanned : Numeral.span (Nat.toDigits 10 n ++ []) = (Nat.toDigits 10 n, []) := span_toDigits (by simp)
  rw [List.append_nil] at spanned
  have value := value_toDigits n
  unfold readMagnitude
  rw [spanned]
  cases digits : Nat.toDigits 10 n with
  | nil => exact absurd digits Nat.toDigits_ne_nil
  | cons first rest =>
    rw [digits] at value
    exact congrArg (fun number : Nat => some (number : ℚ)) value

theorem readMagnitude_point (broken : 0 < places) (units : Nat) :
    readMagnitude (Nat.toDigits 10 (units / 10 ^ places) ++ '.' :: paddedDigits places (units % 10 ^ places)) =
      some ((units : ℚ) / 10 ^ places) := by
  have small : units % 10 ^ places < 10 ^ places := Nat.mod_lt _ (by positivity)
  have length := length_paddedDigits broken small
  have nonempty : paddedDigits places (units % 10 ^ places) ≠ [] := by
    rw [← List.length_pos_iff, length]
    exact broken
  have value : Numeral.value (Nat.toDigits 10 (units / 10 ^ places) ++ paddedDigits places (units % 10 ^ places)) =
      units := by
    rw [value_append, length, value_paddedDigits, value_toDigits, Nat.div_add_mod]
  unfold readMagnitude
  rw [span_toDigits (by simp; decide)]
  cases digits : Nat.toDigits 10 (units / 10 ^ places) with
  | nil => exact absurd digits Nat.toDigits_ne_nil
  | cons first rest =>
    rw [digits] at value
    refine (if_pos ⟨nonempty, all_isDigit_paddedDigits⟩).trans ?_
    rw [value, length]

theorem readMagnitude_unsigned (units places : Nat) :
    readMagnitude (Nat.toDigits 10 (units / 10 ^ places) ++ fraction ⟨false, units, places⟩) =
      some ((units : ℚ) / 10 ^ places) := by
  unfold fraction
  split
  · rename_i none
    obtain rfl : places = 0 := none
    simpa using readMagnitude_whole units
  · rename_i broken
    exact readMagnitude_point (Nat.pos_of_ne_zero broken) units

theorem head_toDigits_ne_minus (tail : List Char) : (Nat.toDigits 10 n ++ rest) ≠ '-' :: tail := by
  intro same
  cases digits : Nat.toDigits 10 n with
  | nil => exact Nat.toDigits_ne_nil digits
  | cons first others =>
    have digit := isDigit_of_mem_toDigits (n := n) (c := first) (by rw [digits]; exact List.mem_cons_self)
    rw [digits, List.cons_append, List.cons.injEq] at same
    rw [same.1] at digit
    exact absurd digit (by decide)

/-- The numeral of a decimal number reads as that number. -/
theorem read_numeral (d : Decimal) : read (String.ofList d.numeral) = some d.number := by
  obtain ⟨negative, units, places⟩ := d
  have magnitude := readMagnitude_unsigned units places
  unfold read numeral sign number
  rw [String.toList_ofList]
  dsimp only
  by_cases signed : negative = true ∧ units ≠ 0
  · rw [if_pos signed, if_pos signed.1, List.append_assoc, List.singleton_append]
    refine (congrArg (Option.map (-·)) magnitude).trans ?_
    rw [Option.map_some, neg_div]
  · have same : (if negative = true then -(units : ℚ) else units) = units := by
      rw [not_and_or, not_not] at signed
      rcases signed with positive | zero
      · rw [if_neg positive]
      · simp [zero]
    rw [if_neg signed, same, List.nil_append]
    split
    · rename_i tail split
      exact absurd split (head_toDigits_ne_minus tail)
    · exact magnitude

theorem trimUnits_number (units places : Nat) :
    ((trimUnits units places).1 : ℚ) / 10 ^ (trimUnits units places).2 = units / 10 ^ places := by
  induction places generalizing units with
  | zero => rfl
  | succ places ih =>
    rw [trimUnits]
    split
    · rename_i ends
      have tens : (units : ℚ) = (units / 10 : ℕ) * 10 := by exact_mod_cast (by omega : units = units / 10 * 10)
      rw [ih, tens, pow_succ, mul_div_mul_right _ _ (by norm_num)]
    · rfl

theorem number_trim (d : Decimal) : d.trim.number = d.number := by
  obtain ⟨negative, units, places⟩ := d
  have same := trimUnits_number units places
  unfold trim number
  dsimp only
  split
  · rw [neg_div, neg_div, same]
  · exact same

/-! ## Texts of doubles -/

/-- The characters in the text of a double. -/
def IsTextual (c : Char) : Prop := Numeral.isDigit c = true ∨ c ∈ ['-', '.', 'i', 'n', 'f', 'a']

theorem isTextual_numeral (d : Decimal) : ∀ c ∈ d.numeral, IsTextual c := by
  have digits (n : Nat) : ∀ c ∈ Nat.toDigits 10 n, IsTextual c := fun _ member => .inl (isDigit_of_mem_toDigits member)
  unfold numeral sign fraction
  rw [List.forall_mem_append, List.forall_mem_append]
  refine ⟨⟨?_, digits _⟩, ?_⟩
  · split
    · exact List.forall_mem_singleton.mpr (.inr (by decide))
    · nofun
  · split
    · nofun
    · refine List.forall_mem_cons.mpr ⟨.inr (by decide), fun c member => .inl ?_⟩
      exact List.all_eq_true.mp all_isDigit_paddedDigits c member

theorem isTextual_text (x : Float) (places : Nat) : ∀ c ∈ (text x places).toList, IsTextual c := by
  have word (word : String) (letters : word.toList.all (['-', '.', 'i', 'n', 'f', 'a'].contains ·) = true) :
      ∀ c ∈ word.toList, IsTextual c := fun c member =>
    .inr (List.contains_iff_mem.mp (List.all_eq_true.mp letters c member))
  unfold text
  split
  · rw [String.toList_ofList]
    exact isTextual_numeral _
  · split
    · exact word "nan" rfl
    · split
      · exact word "-inf" rfl
      · exact word "inf" rfl

theorem isNearest_nearestUnits (e : Double.Exact) (places : Nat) :
    IsNearest (e.mantissa * 2 ^ e.exponent * 10 ^ places) (nearestUnits e places) := by
  obtain ⟨negative, mantissa, exponent⟩ := e
  unfold nearestUnits
  dsimp only
  split
  · rename_i whole
    obtain ⟨power, rfl⟩ := Int.eq_ofNat_of_zero_le whole
    have exactly : (mantissa : ℚ) * 2 ^ (power : ℤ) * 10 ^ places =
        ((mantissa * Nat.pow 10 places * Nat.pow 2 (power : ℤ).toNat : ℕ) : ℤ) := by
      rw [zpow_natCast, Int.toNat_natCast, Nat.pow_eq, Nat.pow_eq]
      push_cast
      ring
    rw [exactly]
    exact IsNearest.whole _
  · rename_i broken
    obtain ⟨power, rfl⟩ : ∃ power : ℕ, exponent = -power := ⟨(-exponent).toNat, by omega⟩
    have quotient : (mantissa : ℚ) * 2 ^ (-(power : ℤ)) * 10 ^ places =
        (mantissa * Nat.pow 10 places : ℕ) / (Nat.pow 2 (- -(power : ℤ)).toNat : ℕ) := by
      rw [neg_neg, Int.toNat_natCast, zpow_neg, zpow_natCast, Nat.pow_eq, Nat.pow_eq]
      push_cast
      field_simp
    rw [quotient]
    exact isNearest_nearestQuotient _ (Nat.pow_pos (by decide))

variable {x : Float}

theorem value_of_exactValue {e : Double.Exact} (known : Double.exactValue? x = some e) :
    Double.value x = (if e.negative then -1 else 1) * (e.mantissa * 2 ^ e.exponent) := by
  unfold Double.exactValue? at known
  unfold Double.value
  cases kind : x.toModel.unpack with
  | infinity sign =>
    rw [kind] at known
    cases known
  | notANumber =>
    rw [kind] at known
    cases known
  | zero sign =>
    rw [kind] at known
    cases known
    change (0 : ℚ) = _ * ((0 : ℕ) * _)
    rw [Nat.cast_zero, zero_mul, mul_zero]
  | finite sign mantissa exponent positive =>
    rw [kind] at known
    cases known
    cases sign with
    | positive =>
      rw [Double.unpackedValue_positive]
      exact (one_mul _).symm
    | negative =>
      rw [Double.unpackedValue_negative]
      exact (neg_one_mul _).symm

theorem exactValue_isSome : (Double.exactValue? x).isSome = x.isFinite := by
  change _ = x.toModel.unpack.isFinite
  unfold Double.exactValue?
  cases x.toModel.unpack <;> rfl

/-- The text of a finite double reads as the nearest decimal with as many places as were
    asked for. -/
theorem read_text (finite : x.isFinite = true) (useful : places ≤ usefulPlaces) :
    ∃ n : ℤ, IsNearest (Double.value x * 10 ^ places) n ∧ read (text x places) = some ((n : ℚ) / 10 ^ places) := by
  obtain ⟨e, known⟩ := Option.isSome_iff_exists.mp (exactValue_isSome.trans finite)
  have near := isNearest_nearestUnits e places
  rw [text, known]
  dsimp only
  rw [min_eq_left useful, read_numeral, number_trim, value_of_exactValue known]
  unfold nearest number
  dsimp only
  cases e.negative with
  | false => exact ⟨nearestUnits e places, by simpa using near, by simp⟩
  | true => exact ⟨-nearestUnits e places, by simpa using near.neg, by simp⟩

theorem read_text_eq_none (infinite : x.isFinite = false) : read (text x places) = none := by
  have unknown : Double.exactValue? x = none := by
    rw [← Option.not_isSome_iff_eq_none, exactValue_isSome, infinite]
    decide
  rw [text, unknown]
  dsimp only
  split
  · decide
  · split <;> decide

/-- The text of a double is a plain numeral just if the double is finite. -/
theorem read_text_isSome (useful : places ≤ usefulPlaces) : (read (text x places)).isSome = x.isFinite := by
  cases finite : x.isFinite with
  | false =>
    rw [read_text_eq_none finite]
    rfl
  | true =>
    obtain ⟨n, _, reads⟩ := read_text finite useful
    rw [reads]
    rfl

end PlantDrawing.Decimal
