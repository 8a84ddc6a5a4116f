import Mathlib.Data.List.Basic
import PlantDrawing.Proofs.MarkupPieces

/-!
# Escapes by replacement

The special characters of a text can also be replaced throughout it, one kind after another. To
replace one character is to map every character on its own (`replace_toList`), so the replacements
one after another are a map as well. It is the map that escapes a text, as the ampersand comes
first: the ampersands of the entities are not replaced again, those of the text are
(`escapeInTurn_eq`). The entities can be told apart from the rest of an escaped text, since its
ampersands begin nothing else (`entity_of_ampersand`).
-/
namespace PlantDrawing.Markup

/-- A text in which `&`, `<`, `>` and `"` are replaced throughout, one after another. -/
def escapeInTurn (text : String) : String :=
  (((text.replace "&" "&amp;").replace "<" "&lt;").replace ">" "&gt;").replace "\"" "&quot;"

/-- The entities of escaped texts. -/
def entities : List String := ["&amp;", "&lt;", "&gt;", "&quot;"]

/-! ## Replacing a character -/

/-- What stands for a character where another one is replaced. -/
def replaced (sought : Char) (entity : String) (c : Char) : List Char :=
  if c = sought then entity.toList else [c]

theorem replaced_of_ne {sought c : Char} (other : c ≠ sought) (entity : String) :
    replaced sought entity c = [c] := if_neg other

theorem flatMap_replaced {sought : Char} {text : List Char} (absent : sought ∉ text) (entity : String) :
    text.flatMap (replaced sought entity) = text := by
  have each : ∀ c ∈ text, replaced sought entity c = [c] := by
    intro c member
    refine replaced_of_ne ?_ entity
    rintro rfl
    exact absent member
  rw [List.flatMap_congr each, List.flatMap_singleton']

section Search

open String.Slice.Pattern String.Slice.Pattern.Model

variable {text : String.Slice} {sought : Char}

/-- What is written for a step of a search: the entity for what is found, and what is passed over
    as it is. -/
def stepText (entity : String) : SearchStep text → String
  | .matched _ _ => entity
  | .rejected start stop => (text.slice! start stop).copy

theorem replace_steps (text pattern entity : String) :
    (text.replace pattern entity).toList =
      (ToForwardSearcher.toSearcher pattern text.toSlice).toList.flatMap fun step =>
        (stepText entity step).toList := by
  have joined := foldl_append_toList (stepText entity) ""
    (ToForwardSearcher.toSearcher pattern text.toSlice).toList
  rw [String.toList_empty, List.nil_append] at joined
  rw [← joined, String.replace, String.Slice.replace, ← Std.Iter.foldl_toList]
  congr 2
  funext out step
  cases step with
  | matched start stop => exact (String.appendSlice_eq).trans (congrArg (out ++ ·) String.copy_toSlice)
  | rejected start stop => exact String.appendSlice_eq

/-- What a search passes over does not hold the character that is sought. -/
theorem notMem_of_passed {start stop : text.Pos} {front passed rest : String}
    (free : ∀ pos, start ≤ pos → pos < stop → ¬MatchesAt (String.singleton sought) pos)
    (starts : start.Splits front (passed ++ rest)) (stops : stop.Splits (front ++ passed) rest) :
    sought ∉ passed.toList := by
  intro member
  obtain ⟨before, after, spelled⟩ := List.append_of_mem member
  have parts : passed = String.ofList before ++ (String.singleton sought ++ String.ofList after) := by
    rw [← String.toList_inj, spelled]
    simp
  -- The character would be found at the place between `before` and `after`.
  have whole : text.copy =
      (front ++ String.ofList before) ++ (String.singleton sought ++ (String.ofList after ++ rest)) := by
    rw [starts.eq_append, parts]
    simp only [String.append_assoc]
  have found := String.Slice.Pos.splits_ofEqAppend whole
  refine free _ ?_ ?_ (ForwardStringSearcher.matchesAt_iff_splits.mpr ⟨_, _, found⟩)
  · refine (starts.le_iff_exists_eq_append found).mpr ⟨String.ofList before, rfl, ?_⟩
    simp only [parts, String.append_assoc]
  · refine (found.lt_iff_exists_eq_append stops).mpr
      ⟨String.singleton sought ++ String.ofList after, by simp, ?_, ?_⟩
    · simp only [parts, String.append_assoc]
    · simp only [String.append_assoc]

/-- From a place of the text on, the steps of a search give the rest of it with the character
    replaced. -/
theorem steps_replaced (entity : String) {steps : List (SearchStep text)} {pos : text.Pos}
    (valid : IsValidSearchFrom (String.singleton sought) pos steps) {front rest : String}
    (splits : pos.Splits front rest) :
    (steps.flatMap fun step => (stepText entity step).toList) =
      rest.toList.flatMap (replaced sought entity) := by
  induction valid generalizing front rest with
  | endPos =>
    obtain ⟨-, rfl⟩ := String.Slice.splits_endPos_iff.mp splits
    rfl
  | matched found _ ih =>
    obtain ⟨_, behind, starts, stops⟩ := ForwardStringSearcher.isLongestMatchAt_iff_splits.mp found
    obtain rfl := splits.eq_right starts
    rw [List.flatMap_cons, ih stops, String.toList_append, List.flatMap_append, String.toList_singleton,
      List.flatMap_singleton, replaced, if_pos rfl]
    rfl
  | @mismatched _ start stop before free _ ih =>
    have ordered : start ≤ stop := Std.le_of_lt before
    obtain ⟨_, behind, starts, stops⟩ := String.Slice.copy_slice_eq_iff_splits.mp ⟨ordered, rfl⟩
    obtain rfl := splits.eq_right starts
    have kept := flatMap_replaced (notMem_of_passed free starts stops) entity
    rw [List.flatMap_cons, ih stops, String.toList_append, List.flatMap_append, kept, stepText,
      String.Slice.slice_eq_slice!]

/-- To replace a character throughout a text is to replace each one on its own. -/
theorem replace_toList (text entity : String) (sought : Char) :
    (text.replace (String.singleton sought) entity).toList =
      text.toList.flatMap (replaced sought entity) := by
  have lawful : LawfulToForwardSearcherModel (String.singleton sought) :=
    ForwardStringSearcher.lawfulToForwardSearcherModel (by simp)
  have valid := lawful.isValidSearchFrom_toList text.toSlice
  rw [replace_steps, steps_replaced entity valid (String.Slice.splits_startPos _), String.copy_toSlice]

end Search

/-! ## Replacing the special characters -/

/-- A character goes through the four replacements as it is escaped. -/
theorem replaced_in_turn (c : Char) :
    (((replaced '&' "&amp;" c).flatMap (replaced '<' "&lt;")).flatMap (replaced '>' "&gt;")).flatMap
      (replaced '"' "&quot;") = escapeCharacter c := by
  fun_cases escapeCharacter c with
  | case1 | case2 | case3 | case4 => decide
  | case5 c ampersand less greater quote =>
    simp only [replaced_of_ne ampersand, replaced_of_ne less, replaced_of_ne greater, replaced_of_ne quote,
      List.flatMap_singleton]

/-- The replacements one after another escape a text. -/
theorem escapeInTurn_eq (text : String) : escapeInTurn text = escape text := by
  rw [← String.toList_inj, escape_toList, escapeInTurn, show "\"" = String.singleton '"' from rfl,
    show ">" = String.singleton '>' from rfl, show "<" = String.singleton '<' from rfl,
    show "&" = String.singleton '&' from rfl]
  simp only [replace_toList, List.flatMap_assoc]
  congr 1
  funext c
  rw [← replaced_in_turn]
  simp only [List.flatMap_assoc]

/-! ## Entities -/

theorem begins_of_mem_entities {entity : String} (member : entity ∈ entities) :
    ∃ tail, entity.toList = '&' :: tail ∧ '&' ∉ tail := by
  simp only [entities, List.mem_cons, List.not_mem_nil, or_false] at member
  rcases member with rfl | rfl | rfl | rfl <;> exact ⟨_, rfl, by decide⟩

theorem escapeCharacter_cases (c : Char) :
    (∃ entity ∈ entities, escapeCharacter c = entity.toList) ∨ '&' ∉ escapeCharacter c := by
  fun_cases escapeCharacter c with
  | case1 | case2 | case3 | case4 => exact .inl (by decide)
  | case5 c ampersand => exact .inr (by simpa using Ne.symm ampersand)

theorem suffix_of_notMem {c : Char} {more front rest : List Char} (absent : c ∉ front)
    (suffix : c :: more <:+ front ++ rest) : c :: more <:+ rest := by
  induction front with
  | nil => exact suffix
  | cons d front ih =>
    rw [List.mem_cons, not_or] at absent
    obtain ⟨other, absent⟩ := absent
    rcases List.suffix_cons_iff.mp suffix with whole | later
    · exact absurd (List.cons.inj whole).1 other
    · exact ih absent later

/-- Each ampersand of an escaped text begins an entity. -/
theorem entity_of_ampersand {text : String} {after : List Char}
    (suffix : '&' :: after <:+ (escape text).toList) :
    ∃ entity ∈ entities, entity.toList <+: '&' :: after := by
  rw [escape_toList] at suffix
  generalize text.toList = characters at suffix
  induction characters with
  | nil => simp at suffix
  | cons c rest ih =>
    rw [List.flatMap_cons] at suffix
    rcases escapeCharacter_cases c with ⟨entity, member, written⟩ | absent
    · obtain ⟨tail, spelled, absent⟩ := begins_of_mem_entities member
      rw [written, spelled, List.cons_append, List.suffix_cons_iff] at suffix
      rcases suffix with here | later
      · refine ⟨entity, member, ?_⟩
        rw [here, spelled]
        exact List.prefix_append ('&' :: tail) _
      · exact ih (suffix_of_notMem absent later)
    · exact ih (suffix_of_notMem absent suffix)

/-! ## The encoding -/

theorem escape_append (text more : String) : escape (text ++ more) = escape text ++ escape more := by
  simp only [escape, String.toList_append, List.flatMap_append, String.ofList_append]

theorem escape_inj {text more : String} : escape text = escape more ↔ text = more := by
  refine ⟨fun same => ?_, fun same => same ▸ rfl⟩
  rw [← String.toList_inj, ← unescape_escape, same, unescape_escape]

/-- To escape a text is to replace its special characters throughout it, one after another, and
    it is to write each of its characters on its own. What is written holds no delimiter, and an
    ampersand only where an entity begins. One pass over the entities gives the text back, so no two
    texts are written alike. -/
theorem escape_reversible (text more : String) :
    escapeInTurn text = escape text ∧
      escape (text ++ more) = escape text ++ escape more ∧
      ('<' ∉ (escape text).toList ∧ '>' ∉ (escape text).toList ∧ '"' ∉ (escape text).toList) ∧
      (∀ after, '&' :: after <:+ (escape text).toList →
        ∃ entity ∈ entities, entity.toList <+: '&' :: after) ∧
      String.ofList (unescape (escape text).toList) = text ∧
      (escape text = escape more ↔ text = more) := by
  have spared : ∀ c, isDelimiter c = true → c ∉ (escape text).toList := by
    intro c delimiter member
    exact absurd delimiter (Bool.eq_false_iff.mp (escape_no_delimiter text c member))
  have back : String.ofList (unescape (escape text).toList) = text := by
    rw [unescape_escape, String.ofList_toList]
  exact ⟨escapeInTurn_eq text, escape_append text more, ⟨spared '<' rfl, spared '>' rfl, spared '"' rfl⟩,
    fun _ => entity_of_ampersand, back, escape_inj⟩

/-- An entity that stands in the text itself is written so that it is read back as it stands. -/
theorem escape_reversible_literal :
    escapeInTurn "\"&lt;\" < &" = "&quot;&amp;lt;&quot; &lt; &amp;" ∧
      '&' :: "amp;lt;&quot; &lt; &amp;".toList <:+ (escape "\"&lt;\" < &").toList ∧
      (∃ entity ∈ entities, entity.toList <+: '&' :: "amp;lt;&quot; &lt; &amp;".toList) ∧
      String.ofList (unescape "&quot;&amp;lt;&quot; &lt; &amp;".toList) = "\"&lt;\" < &" := by
  have written : escape "\"&lt;\" < &" = "&quot;&amp;lt;&quot; &lt; &amp;" := by decide
  have here : '&' :: "amp;lt;&quot; &lt; &amp;".toList <:+ (escape "\"&lt;\" < &").toList := by decide
  obtain ⟨inTurn, -, -, begins, back, -⟩ := escape_reversible "\"&lt;\" < &" ""
  rw [written] at inTurn back
  exact ⟨inTurn, here, begins _ here, back⟩

end PlantDrawing.Markup
