import Mathlib.Data.List.TakeWhile
import PlantDrawing.Proofs.DecimalText
import PlantDrawing.Proofs.GivenArguments
import PlantDrawing.Proofs.OneLine

/-!
# Arguments that are read as they are meant

A whole number written out is read back as that number (`ArgumentNumber.int?_toString`), and its
text is no option, even with a minus in front (`Token.classify_int`). An argument that does not
begin with a dash is a word, so a line of words, options and their values fills the slots one
by one.
-/
namespace PlantDrawing

variable {argument text : String} {options : List OptionName} {rest : List Token} {given : Given}
  {arguments : List String} {before : Before} {runtime : Runtime} {most : Nat}

/-! ## Numbers -/

namespace Numeral

variable {c : Char}

theorem bounds_of_isDigit (digit : isDigit c = true) : 48 ≤ c.toNat ∧ c.toNat ≤ 57 := by
  simpa [isDigit, Char.le_def, UInt32.le_iff_toNat_le] using digit

theorem ne_of_isDigit {other : Char} (digit : isDigit c = true) (apart : isDigit other = false) : c ≠ other := by
  rintro rfl
  rw [digit] at apart
  cases apart

end Numeral

namespace ArgumentNumber

variable {characters : List Char}

/-- Characters of numbers in their plain form. -/
def Bare (characters : List Char) : Prop :=
  ∀ c ∈ characters, plainCharacter c = c ∧ isBlank c = false

theorem bare_digit {c : Char} (digit : Numeral.isDigit c = true) : plainCharacter c = c ∧ isBlank c = false := by
  obtain ⟨least, most⟩ := Numeral.bounds_of_isDigit digit
  have noSpace : c ≠ ' ' := Numeral.ne_of_isDigit digit (by decide)
  refine ⟨if_pos (by omega), ?_⟩
  simp only [isBlank, noSpace, decide_false, Bool.false_or, Bool.and_eq_false_iff, decide_eq_false_iff_not]
  omega

theorem dropWhile_bare (bare : Bare characters) : characters.dropWhile isBlank = characters := by
  cases characters with
  | nil => rfl
  | cons c rest => exact List.dropWhile_cons_of_neg (by simp [(bare c List.mem_cons_self).2])

/-- A text of bare characters is plain already. -/
theorem plain_of_bare (bare : Bare text.toList) : plain text = text.toList := by
  have kept : text.toList.map plainCharacter = text.toList := by
    conv_rhs => rw [← List.map_id text.toList]
    exact List.map_congr_left fun c member => (bare c member).1
  have reversed : Bare text.toList.reverse := fun c member => bare c (List.mem_reverse.mp member)
  rw [plain, kept, dropWhile_bare bare, dropWhile_bare reversed, List.reverse_reverse]

theorem dropUnderscores_digits (digits : ∀ c ∈ characters, Numeral.isDigit c = true) (afterDigit : Bool) :
    dropUnderscores afterDigit characters = some characters := by
  induction characters generalizing afterDigit with
  | nil => rfl
  | cons c rest ih =>
    obtain ⟨head, tail⟩ := List.forall_mem_cons.mp digits
    have noUnderscore : c ≠ '_' := Numeral.ne_of_isDigit head (by decide)
    rw [dropUnderscores, ih tail]
    · rfl
    · rintro _ _ rfl _
      exact noUnderscore rfl
    · rintro rfl _
      exact noUnderscore rfl

theorem readSign_digits (digits : ∀ c ∈ characters, Numeral.isDigit c = true) :
    readSign characters = (false, characters) := by
  unfold readSign
  split
  · exact absurd (digits '-' List.mem_cons_self) (by decide)
  · exact absurd (digits '+' List.mem_cons_self) (by decide)
  · rfl

/-- A whole number written out is read back if it has no more digits than are read. -/
theorem int?_toString (n : Int) (few : (Nat.toDigits 10 n.natAbs).length ≤ most) :
    int? most (toString n) = some n := by
  have written := toString_int_toList n
  have digits : ∀ c ∈ Nat.toDigits 10 n.natAbs, Numeral.isDigit c = true :=
    fun _ member => Decimal.isDigit_of_mem_toDigits member
  have bare : Bare (toString n).toList := by
    rw [written]
    intro c member
    rcases List.mem_append.mp member with sign | digit
    · split at sign
      · cases sign
      · obtain rfl := List.mem_singleton.mp sign
        decide
    · exact bare_digit (digits c digit)
  have signed : readSign (toString n).toList = (decide (n < 0), Nat.toDigits 10 n.natAbs) := by
    rw [written]
    by_cases natural : 0 ≤ n
    · have positive : decide (n < 0) = false := by simpa using natural
      rw [if_pos natural, List.nil_append, positive]
      exact readSign_digits digits
    · have negative : decide (n < 0) = true := by simpa using natural
      rw [if_neg natural, negative]
      rfl
  have proper : ((Nat.toDigits 10 n.natAbs).isEmpty || !(Nat.toDigits 10 n.natAbs).all Numeral.isDigit ||
      decide (most < (Nat.toDigits 10 n.natAbs).length)) = false := by
    rw [Bool.or_eq_false_iff, Bool.or_eq_false_iff, List.isEmpty_eq_false_iff, Bool.not_eq_false', List.all_eq_true,
      decide_eq_false_iff_not, Nat.not_lt]
    exact ⟨⟨Nat.toDigits_ne_nil, digits⟩, few⟩
  unfold int?
  rw [plain_of_bare bare, signed]
  simp only [dropUnderscores_digits digits, Option.bind_eq_bind, Option.bind_some, proper, Decimal.value_toDigits]
  by_cases natural : 0 ≤ n
  · have size : (n.natAbs : Int) = n := by omega
    simp [natural, size]
  · have size : (n.natAbs : Int) = -n := by omega
    simp [Int.not_le.mp natural, size]

end ArgumentNumber

/-! ## Words -/

/-- The argument does not begin like an option. -/
def Undashed (argument : String) : Prop := argument.toList.head? ≠ some '-'

instance (argument : String) : Decidable (Undashed argument) := inferInstanceAs (Decidable (_ ≠ _))

theorem Undashed.ne_separator (plain : Undashed argument) : argument ≠ "--" := by
  rintro rfl
  exact plain rfl

theorem Undashed.wordOf (plain : Undashed argument) : wordOf before argument = .filled argument :=
  if_neg fun blank => plain.ne_separator blank.1

namespace Token

theorem classify_undashed (plain : Undashed argument) : classify options argument = .ok (.word argument) := by
  rw [classify, if_neg plain.ne_separator]
  split
  · rename_i begins
    exact absurd (by rw [begins]; rfl) plain
  · rfl

theorem spelled?_of_digit {c : Char} {others : List Char} (shape : argument.toList = '-' :: c :: others)
    (digit : Numeral.isDigit c = true) : spelled? options argument = none := by
  rw [spelled?, List.find?_eq_none]
  intro name _ spelled
  have spelling : argument ∈ name.spellings := List.contains_iff_mem.mp spelled
  -- No spelling of an option goes on with a digit.
  have letters : ∀ spelling ∈ name.spellings, ∀ second, spelling.toList[1]? = some second →
      Numeral.isDigit second = false := by
    cases name <;> simp [OptionName.spellings] <;> decide
  have letter := letters argument spelling c (by rw [shape]; rfl)
  rw [digit] at letter
  cases letter

theorem cutValue_of_notMem (unjoined : '=' ∉ argument.toList) : cutValue argument = (argument, .nothing) := by
  have whole : argument.toList.takeWhile (· ≠ '=') = argument.toList := by
    rw [List.takeWhile_eq_self_iff]
    intro c member
    simp only [ne_eq, decide_not, Bool.not_eq_eq_eq_not, Bool.not_true, decide_eq_false_iff_not]
    rintro rfl
    exact unjoined member
  rw [cutValue]
  simp only [whole, List.drop_length]

theorem dropFinalNewline_of_notMem {characters : List Char} (line : '\n' ∉ characters) :
    dropFinalNewline characters = characters := by
  unfold dropFinalNewline
  split
  · rename_i rest ends
    have last : '\n' ∈ characters.reverse := ends ▸ List.mem_cons_self
    exact absurd (List.mem_reverse.mp last) line
  · rfl

theorem isDecimal_of_isDigit {c : Char} (digit : Numeral.isDigit c = true) : DecimalDigit.isDecimal c = true := by
  obtain ⟨least, most⟩ := Numeral.bounds_of_isDigit digit
  rw [DecimalDigit.isDecimal, DecimalDigit.value?_of_mem_range least most]
  rfl

theorem looksNegative_of_digits {others : List Char} (shape : argument.toList = '-' :: others) (some : others ≠ [])
    (digits : ∀ c ∈ others, Numeral.isDigit c = true) : looksNegative argument = true := by
  have line : '\n' ∉ argument.toList := by
    rw [shape, List.mem_cons, not_or]
    exact ⟨by decide, fun member => absurd (digits _ member) (by decide)⟩
  have whole : others.takeWhile DecimalDigit.isDecimal = others :=
    List.takeWhile_eq_self_iff.mpr fun c member => isDecimal_of_isDigit (digits c member)
  rw [looksNegative, dropFinalNewline_of_notMem line, shape]
  simp [whole, some]

theorem classify_negative {c : Char} {others : List Char} (shape : argument.toList = '-' :: c :: others)
    (digits : ∀ digit ∈ c :: others, Numeral.isDigit digit = true) :
    classify options argument = .ok (.word argument) := by
  have digit := digits c List.mem_cons_self
  have noDash : c ≠ '-' := Numeral.ne_of_isDigit digit (by decide)
  have noSeparator : argument ≠ "--" := by
    rintro rfl
    cases shape
    exact noDash rfl
  have unjoined : '=' ∉ argument.toList := by
    rw [shape, List.mem_cons, not_or]
    exact ⟨by decide, fun member => absurd (digits _ member) (by decide)⟩
  have unread : readings options argument = [] := by
    rw [readings, shape]
    split
    · rename_i same
      cases same
      exact absurd rfl noDash
    · rename_i letter more _ same
      cases same
      have unspelled : spelled? options (String.ofList ['-', c]) = none :=
        spelled?_of_digit String.toList_ofList digit
      dsimp only
      rw [unspelled]
    · rfl
  have dashed : classify options argument = classifyDashed options argument := by
    rw [classify, if_neg noSeparator, shape]
    rfl
  rw [dashed, classifyDashed, spelled?_of_digit shape digit, cutValue_of_notMem unjoined]
  dsimp only
  rw [ofDashed, unread, looksNegative_of_digits shape (List.cons_ne_nil c others) digits]
  rfl

/-- The text of a whole number is a word, with or without a minus. -/
theorem classify_int (n : Int) : classify options (toString n) = .ok (.word (toString n)) := by
  have written := toString_int_toList n
  have digits : ∀ c ∈ Nat.toDigits 10 n.natAbs, Numeral.isDigit c = true :=
    fun _ member => Decimal.isDigit_of_mem_toDigits member
  cases shape : Nat.toDigits 10 n.natAbs with
  | nil => exact absurd shape Nat.toDigits_ne_nil
  | cons c others =>
    rw [shape] at written digits
    by_cases natural : 0 ≤ n
    · rw [if_pos natural, List.nil_append] at written
      refine classify_undashed ?_
      rw [Undashed, written, List.head?_cons, ne_eq, Option.some.injEq]
      exact Numeral.ne_of_isDigit (digits c List.mem_cons_self) (by decide)
    · rw [if_neg natural] at written
      exact classify_negative written digits

theorem classifyAll_cons {token : Token} (first : classify options argument = .ok token)
    (proper : token ≠ .separator) :
    classifyAll options (argument :: arguments) = (classifyAll options arguments).map (token :: ·) := by
  rw [classifyAll, first]
  change (if token = .separator then _ else _) = _
  rw [if_neg proper]
  cases classifyAll options arguments <;> rfl

theorem classifyAll_word (first : classify options argument = .ok (.word text)) :
    classifyAll options (argument :: arguments) = (classifyAll options arguments).map (.word text :: ·) :=
  classifyAll_cons first (by simp)

theorem classifyAll_option {name : OptionName} {joined : Joined}
    (first : classify options argument = .ok (.option name joined)) :
    classifyAll options (argument :: arguments) = (classifyAll options arguments).map (.option name joined :: ·) :=
  classifyAll_cons first (by simp)

/-- Behind a word the other arguments are told apart on their own. -/
theorem classifyAll_of_word (read : classifyAll options (argument :: arguments) = .ok (.word text :: rest)) :
    classifyAll options arguments = .ok rest := by
  obtain ⟨token, first, read⟩ := Outcome.bind_eq_ok.mp read
  split at read
  · cases read
  · obtain ⟨others, more, read⟩ := Outcome.bind_eq_ok.mp read
    cases read
    exact more

end Token

/-! ## Values -/

namespace Given

theorem slot_filled {α : Type} {convert : String → Except Misuse α} {value : α} (proper : text ≠ "--")
    (converted : convert text = .ok value) : slot convert text = .ok (.filled value) := by
  rw [slot, if_neg proper, converted]
  rfl

theorem toString_int_ne_separator (n : Int) : toString n ≠ "--" := by
  intro separator
  have written := toString_int_toList n
  rw [separator] at written
  have digit : '-' ∈ Nat.toDigits 10 n.natAbs := by
    split at written
    · rw [List.nil_append] at written
      exact written ▸ List.mem_cons_self
    · have tail : ['-'] = Nat.toDigits 10 n.natAbs := (List.cons.inj written).2
      exact tail ▸ List.mem_cons_self
  exact absurd (Decimal.isDigit_of_mem_toDigits digit) (by decide)

theorem slot_toInteger (option : OptionName) (n : Int) (few : (Nat.toDigits 10 n.natAbs).length ≤ runtime.digits) :
    slot (toInteger runtime option) (toString n) = .ok (.filled n) := by
  refine slot_filled (toString_int_ne_separator n) ?_
  rw [toInteger, ArgumentNumber.int?_toString n few]

/-- An option takes its value from the word that follows. -/
theorem readTokens_set {next : Given} {name : OptionName} {places : List PlaceName} {extra : List String}
    (set : given.set runtime name text = .ok next) (other : name ≠ .help) :
    readTokens runtime options given places extra before (.option name .nothing :: .word text :: rest) =
      readTokens runtime options next places extra .other rest := by
  rw [readTokens, set]
  · rfl
  · exact other

end Given

/-! ## A file of SVG options -/

/-- The arguments that name a file of SVG options, if there is one. -/
def optionsArguments : Option String → List String
  | none => []
  | some path => ["--options", path]

/-- What is given of the file. -/
def optionsSlot : Option String → Slot String
  | none => .absent
  | some path => .filled path

/-- The tokens of these arguments. -/
def optionsTokens : Option String → List Token
  | none => []
  | some path => [.option .options .nothing, .word path]

theorem classifyAll_optionsArguments {file : Option String} (plain : ∀ path ∈ file, Undashed path)
    (known : Token.classify options "--options" = .ok (.option .options .nothing)) :
    Token.classifyAll options (optionsArguments file) = .ok (optionsTokens file) := by
  cases file with
  | none => rfl
  | some path =>
    have word := @Token.classify_undashed path options (plain path rfl)
    rw [optionsArguments, Token.classifyAll_option known, Token.classifyAll_word word]
    rfl

theorem readTokens_optionsTokens {file : Option String} (plain : ∀ path ∈ file, Undashed path)
    (unset : given.options = .absent) :
    readTokens runtime options given [] [] before (optionsTokens file) =
      .ok (.complete { given with options := optionsSlot file } []) := by
  cases file with
  | none =>
    rw [optionsSlot, ← unset]
    rfl
  | some path =>
    have filled : given.set runtime .options path = .ok { given with options := .filled path } := by
      rw [Given.set, Given.slot_filled (plain path rfl).ne_separator rfl]
      rfl
    exact Given.readTokens_set filled (by decide)

/-! ## Commands -/

theorem ofArguments_command (command : CommandName) :
    Request.ofArguments runtime (command.word :: arguments) = requestOf runtime [] command arguments := by
  cases command <;> rfl

theorem requestOf_complete {command : CommandName} (read : command.read runtime arguments = .ok (.complete given [])) :
    requestOf runtime [] command arguments = .ok (.run command given) := by
  rw [requestOf, read]
  rfl

end PlantDrawing
