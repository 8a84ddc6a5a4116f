import Mathlib.Data.List.Infix
import PlantDrawing.JsonText
import PlantDrawing.Proofs.Outcome

/-!
# What goes beyond the runtime

A reader takes what it reads off the front of a text, so what is left is an end of it. From
this it follows that a JSON text is refused for the bounds of the runtime only if it goes
beyond them: if more arrays and objects begin in it than may be opened, or if there is a row
of more digits than a whole number may have (`read_exceeds`).
-/
namespace PlantDrawing.Json

variable {α β : Type} {digits room : Nat} {text rest : List Char} {refusal : Refusal}

/-- Whether an array or an object begins with a character. -/
def isOpening (c : Char) : Bool := c = '[' || c = '{'

/-- More than so many digits stand in a row. -/
def HasLongRow (digits : Nat) (text : List Char) : Prop :=
  ∃ row, row <:+: text ∧ (∀ d ∈ row, Numeral.isDigit d = true) ∧ digits < row.length

/-- What a text must hold to be refused in a given way. -/
def Deserves (digits room : Nat) (text : List Char) : Refusal → Prop
  | .malformed .. => True
  | .tooNested => room < text.countP isOpening
  | .tooManyDigits => HasLongRow digits text

/-- A reader leaves an end of the text, or refuses what deserves it. -/
def Fair (digits room : Nat) (text : List Char) : Except Refusal (α × List Char) → Prop
  | .ok (_, rest) => rest <:+ text
  | .error refusal => Deserves digits room text refusal

theorem Deserves.of_suffix (suffix : rest <:+ text) (deserves : Deserves digits room rest refusal) :
    Deserves digits room text refusal := by
  cases refusal with
  | malformed => trivial
  | tooNested => exact deserves.trans_le (suffix.sublist.countP_le)
  | tooManyDigits =>
    obtain ⟨row, inside, numeral, long⟩ := deserves
    exact ⟨row, inside.trans suffix.isInfix, numeral, long⟩

namespace Fair

theorem of_suffix {outcome : Except Refusal (α × List Char)} (suffix : rest <:+ text)
    (fair : Fair digits room rest outcome) : Fair digits room text outcome := by
  cases outcome with
  | error refusal => exact Deserves.of_suffix suffix fair
  | ok result => exact List.IsSuffix.trans fair suffix

theorem behind (word : List Char) (value : α) : Fair digits room (word ++ rest) (.ok (value, rest)) :=
  List.suffix_append word rest

/-- Readers one after another. -/
theorem bind {first : Except Refusal (α × List Char)} {second : α × List Char → Except Refusal (β × List Char)}
    (fair : Fair digits room text first)
    (next : ∀ value rest, rest <:+ text → Fair digits room rest (second (value, rest))) :
    Fair digits room text (first >>= second) := by
  cases first with
  | error refusal => exact fair
  | ok result => exact (next result.1 result.2 fair).of_suffix fair

/-- Within an array or an object there is room for one less. -/
theorem inside {outcome : Except Refusal (α × List Char)} {c : Char} (opening : isOpening c = true)
    (fair : Fair digits room text outcome) : Fair digits (room + 1) (c :: text) outcome := by
  cases outcome with
  | ok result => exact List.IsSuffix.trans fair (List.suffix_cons c text)
  | error refusal =>
    cases refusal with
    | malformed => trivial
    | tooNested =>
      change room + 1 < (c :: text).countP isOpening
      rw [List.countP_cons_of_pos opening]
      exact Nat.succ_lt_succ fair
    | tooManyDigits =>
      obtain ⟨row, inside, numeral, long⟩ := fair
      exact ⟨row, inside.trans (List.suffix_cons c text).isInfix, numeral, long⟩

end Fair

theorem skipBlanks_suffix (text : List Char) : skipBlanks text <:+ text := List.dropWhile_suffix isBlank

/-! ## Numbers -/

theorem span_suffix (text : List Char) : (Numeral.span text).2 <:+ text := List.dropWhile_suffix Numeral.isDigit

theorem readFraction_suffix (text : List Char) : (readFraction text).2 <:+ text := by
  unfold readFraction
  split
  · split
    · exact (span_suffix _).trans (List.suffix_cons _ _)
    · exact List.suffix_rfl
  · exact List.suffix_rfl

theorem readSign_suffix (text : List Char) : (readSign text).2 <:+ text := by
  unfold readSign
  split
  · exact List.suffix_cons _ _
  · exact List.suffix_cons _ _
  · exact List.suffix_rfl

theorem readExponent_suffix (text : List Char) : (readExponent text).2 <:+ text := by
  unfold readExponent
  split
  · rename_i mark rest
    split
    · dsimp only
      split
      · exact List.suffix_rfl
      · exact ((span_suffix _).trans (readSign_suffix rest)).trans (List.suffix_cons mark rest)
    · exact List.suffix_rfl
  · exact List.suffix_rfl

/-- The whole part of a number is a row of digits at the front of the text. -/
theorem readWhole_eq_some {whole : List Char} (read : readWhole text = some (whole, rest)) :
    whole ++ rest = text ∧ ∀ d ∈ whole, Numeral.isDigit d = true := by
  unfold readWhole at read
  split at read
  · cases read
  · rename_i d after
    split at read
    · rename_i zero
      cases read
      subst zero
      exact ⟨rfl, List.forall_mem_singleton.mpr rfl⟩
    · split at read
      · obtain ⟨rfl, rfl⟩ := Prod.mk.inj (Option.some.inj read)
        exact ⟨List.takeWhile_append_dropWhile, List.all_eq_true.mp (List.all_takeWhile)⟩
      · cases read

theorem readMagnitude_fair (start : List Char) (negative : Bool) :
    Fair digits room text (readMagnitude digits start negative text) := by
  unfold readMagnitude
  split
  · trivial
  · rename_i whole after read
    obtain ⟨rfl, numeral⟩ := readWhole_eq_some read
    have left : (readExponent (readFraction after).2).2 <:+ whole ++ after :=
      ((readExponent_suffix _).trans (readFraction_suffix after)).trans (List.suffix_append whole after)
    dsimp only
    split
    · split
      · rename_i long
        exact ⟨whole, (List.prefix_append whole after).isInfix, numeral, long⟩
      · exact left
    · exact left

theorem readScalar_fair (text : List Char) : Fair digits room text (readScalar digits text) := by
  unfold readScalar
  split
  · exact .behind "null".toList _
  · exact .behind "true".toList _
  · exact .behind "false".toList _
  · exact .behind "NaN".toList _
  · exact .behind "Infinity".toList _
  · exact .behind "-Infinity".toList _
  · exact (readMagnitude_fair _ _).of_suffix (List.suffix_cons _ _)
  · exact readMagnitude_fair _ _

/-! ## Strings -/

theorem readCodeUnit_fair (letter text : List Char) : Fair digits room text (readCodeUnit letter text) := by
  unfold readCodeUnit
  split
  · split
    · exact .behind [_, _, _, _] _
    · trivial
  · trivial

theorem readLowSurrogate_fair (text : List Char) : Fair digits room text (readLowSurrogate text) := by
  unfold readLowSurrogate
  split
  · split
    · split
      · exact .behind [_, _, _, _, _, _] _
      · exact .behind [] _
    · trivial
  · exact .behind [] _

theorem readUnicodeEscape_fair (letter text : List Char) :
    Fair digits room text (readUnicodeEscape letter text) := by
  refine (readCodeUnit_fair letter text).bind fun unit rest _ => ?_
  dsimp only
  split
  · refine (readLowSurrogate_fair rest).bind fun low after _ => ?_
    cases low <;> exact .behind [] _
  · exact .behind [] _

theorem readCodePoint_fair (opened text : List Char) : Fair digits room text (readCodePoint opened text) := by
  unfold readCodePoint
  split
  · trivial
  · exact .behind ['"'] _
  · trivial
  · rename_i rest
    refine Fair.of_suffix (List.suffix_append ['\\', 'u'] rest) ?_
    exact (readUnicodeEscape_fair _ rest).bind fun point _ _ => .behind [] (some point)
  · split
    · exact .behind ['\\', _] _
    · trivial
  · split
    · trivial
    · exact .behind [_] _

theorem readCodePoints_fair (opened : List Char) (fuel : Nat) (reversed : List CodePoint) (text : List Char) :
    Fair digits room text (readCodePoints opened fuel reversed text) := by
  induction fuel generalizing reversed text with
  | zero => trivial
  | succ fuel ih =>
    have fair : Fair digits room text (readCodePoint opened text) := readCodePoint_fair opened text
    unfold readCodePoints
    split
    · rename_i refused
      rwa [refused] at fair
    · rename_i ended
      rwa [ended] at fair
    · rename_i went
      rw [went] at fair
      exact (ih _ _).of_suffix fair

theorem readString_fair (text : List Char) : Fair digits room text (readString text) := by
  unfold readString
  split
  · rename_i rest
    exact (readCodePoints_fair _ _ _ rest).of_suffix (List.suffix_cons '"' rest)
  · trivial

/-! ## Values -/

theorem expect_cases (mark : Char) (problem : Problem) (text : List Char) :
    (∃ place, expect mark problem text = .error (.malformed problem place)) ∨
      ∃ rest, expect mark problem text = .ok rest ∧ rest <:+ text := by
  unfold expect
  split
  · exact .inl ⟨_, rfl⟩
  · rename_i c rest found
    split
    · have suffix : skipBlanks rest <:+ c :: rest := (skipBlanks_suffix rest).trans (List.suffix_cons c rest)
      rw [← found] at suffix
      exact .inr ⟨_, rfl, suffix.trans (skipBlanks_suffix text)⟩
    · exact .inl ⟨_, rfl⟩

theorem noRoom_fair {c : Char} (opening : isOpening c = true) :
    Fair digits 0 (c :: rest) (.error .tooNested : Except Refusal (α × List Char)) := by
  change 0 < (c :: rest).countP isOpening
  rw [List.countP_cons_of_pos opening]
  exact Nat.succ_pos _

theorem closed_fair {c : Char} {after : List Char} (closed : skipBlanks text = c :: after) (value : α) :
    Fair digits room text (.ok (value, after)) := by
  have suffix := skipBlanks_suffix text
  rw [closed] at suffix
  exact (Fair.behind [c] value).of_suffix suffix

section

variable {fuel : Nat} (value : ∀ room text, Fair digits room text (readValue digits fuel room text))
  (items : ∀ room reversed text, Fair digits room text (readItems digits fuel room reversed text))
  (members : ∀ room known text, Fair digits room text (readMembers digits fuel room known text))

include items members in
theorem readValue_fair (room : Nat) (text : List Char) :
    Fair digits room text (readValue digits (fuel + 1) room text) := by
  unfold readValue
  split
  · exact (readString_fair _).bind fun word _ _ => .behind [] (Json.str word)
  · rename_i rest
    split
    · exact noRoom_fair (by decide)
    · rename_i closed
      exact (closed_fair closed _).inside (by decide)
    · exact ((members _ _ _).of_suffix (skipBlanks_suffix rest)).inside (by decide)
  · rename_i rest
    split
    · exact noRoom_fair (by decide)
    · rename_i closed
      exact (closed_fair closed _).inside (by decide)
    · exact ((items _ _ _).of_suffix (skipBlanks_suffix rest)).inside (by decide)
  · exact readScalar_fair text

include value items in
theorem readItems_fair (room : Nat) (reversed : List Json) (text : List Char) :
    Fair digits room text (readItems digits (fuel + 1) room reversed text) := by
  have fair := value room text
  unfold readItems
  cases read : readValue digits fuel room text with
  | error refusal => rwa [read] at fair
  | ok result =>
    obtain ⟨item, rest⟩ := result
    rw [read] at fair
    refine Fair.of_suffix fair ?_
    dsimp only
    split
    · rename_i closed
      exact closed_fair closed _
    · rcases expect_cases ',' .comma (skipBlanks rest) with ⟨_, refused⟩ | ⟨next, went, suffix⟩
      · rw [refused]
        trivial
      · rw [went]
        exact (items _ _ _).of_suffix (suffix.trans (skipBlanks_suffix rest))

include value members in
theorem readMembers_fair (room : Nat) (known : List (Text × Json)) (text : List Char) :
    Fair digits room text (readMembers digits (fuel + 1) room known text) := by
  have named : Fair digits room text (readString text) := readString_fair text
  unfold readMembers
  cases key : readString text with
  | error refusal => rwa [key] at named
  | ok result =>
    obtain ⟨key, afterKey⟩ := result
    rw [key] at named
    refine Fair.of_suffix named ?_
    dsimp only
    rcases expect_cases ':' .colon afterKey with ⟨_, refused⟩ | ⟨start, went, behind⟩
    · rw [refused]
      trivial
    · rw [went]
      refine Fair.of_suffix behind ?_
      have fair := value room start
      dsimp only
      cases read : readValue digits fuel room start with
      | error refusal => rwa [read] at fair
      | ok result =>
        obtain ⟨item, rest⟩ := result
        rw [read] at fair
        refine Fair.of_suffix fair ?_
        dsimp only
        split
        · rename_i closed
          exact closed_fair closed _
        · rcases expect_cases ',' .comma (skipBlanks rest) with ⟨_, refused⟩ | ⟨next, went, suffix⟩
          · rw [refused]
            trivial
          · rw [went]
            exact (members _ _ _).of_suffix (suffix.trans (skipBlanks_suffix rest))

end

/-- Values, items and members are read fairly, however much fuel there is. -/
theorem values_fair (digits fuel : Nat) :
    (∀ room text, Fair digits room text (readValue digits fuel room text)) ∧
      (∀ room reversed text, Fair digits room text (readItems digits fuel room reversed text)) ∧
        ∀ room known text, Fair digits room text (readMembers digits fuel room known text) := by
  -- All three at once, since each reads the others with one less of the fuel.
  induction fuel with
  | zero => exact ⟨fun _ _ => trivial, fun _ _ _ => trivial, fun _ _ _ => trivial⟩
  | succ fuel ih =>
    obtain ⟨value, items, members⟩ := ih
    exact ⟨readValue_fair items members, readItems_fair value items, readMembers_fair value members⟩

variable {runtime : Runtime}

theorem readDocument_deserves (refused : readDocument runtime text = .error refusal) :
    Deserves runtime.digits runtime.nesting text refusal := by
  unfold readDocument at refused
  split at refused
  · cases refused
    trivial
  · have fair := (values_fair runtime.digits (2 * text.length + 1)).1 runtime.nesting (skipBlanks text)
    split at refused
    · rename_i same
      cases refused
      rw [same] at fair
      exact fair.of_suffix (skipBlanks_suffix text)
    · split at refused
      · cases refused
      · cases refused
        trivial

/-- A text is refused for the bounds of the runtime only if it goes beyond them. -/
theorem read_exceeds {content : String} {fault : ReadFault} (refused : read runtime content = .error fault) :
    (fault = .tooNested → runtime.nesting < content.toList.countP isOpening) ∧
      (fault = .tooManyDigits → HasLongRow runtime.digits content.toList) := by
  obtain ⟨refusal, early, rfl⟩ := Outcome.mapError_eq_error.mp refused
  have deserves := readDocument_deserves early
  cases refusal with
  | malformed => exact ⟨nofun, nofun⟩
  | tooNested => exact ⟨fun _ => deserves, nofun⟩
  | tooManyDigits => exact ⟨nofun, fun _ => deserves⟩

end PlantDrawing.Json
