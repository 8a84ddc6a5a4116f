import PlantDrawing.Proofs.BracketCounts

/-!
# The language of brackets

Balanced words are those that a grammar derives: a balanced word is empty, or begins with a symbol
that is no bracket, or begins with a balanced word in brackets (`balanced_iff_nested`). A word that
ends where nothing is open, read below some open branches, is cut by the brackets that close these
into balanced words (`heightFrom_eq_zero_iff`), the first of which stands before the bracket that
matches the innermost branch.
-/
namespace PlantDrawing.Word

/-- The words that are derived from `S → ε | c S | [ S ] S`, where `c` is any symbol but a
    bracket. -/
inductive Nested : Word → Prop
  | empty : Nested []
  | plain {symbol : Char} {word : Word} (noOpening : symbol ≠ opening) (noClosing : symbol ≠ closing)
      (rest : Nested word) : Nested (symbol :: word)
  | branch {inner word : Word} (inside : Nested inner) (rest : Nested word) :
      Nested (opening :: (inner ++ closing :: word))

/-- The words that close so many branches from before them: derived words stand in front of,
    between and behind the brackets that do. -/
inductive Closes : Nat → Word → Prop
  | last {word : Word} (nested : Nested word) : Closes 0 word
  | next {height : Nat} {inner word : Word} (inside : Nested inner) (rest : Closes height word) :
      Closes (height + 1) (inner ++ closing :: word)

variable {height : Nat} {symbol : Char} {word : Word}

theorem Nested.heightFrom (nested : Nested word) (height : Nat) : heightFrom height word = some height := by
  induction nested generalizing height with
  | empty => rfl
  | plain noOpening noClosing _ ih =>
    rw [heightFrom_cons, heightStep_plain height noOpening noClosing]
    exact ih height
  | branch _ _ insideIh restIh =>
    rw [heightFrom_cons, heightStep_opening, Option.bind_some, heightFrom_append, insideIh, Option.bind_some,
      heightFrom_cons, heightStep_closing_succ]
    exact restIh height

namespace Closes

theorem heightFrom (closes : Closes height word) : heightFrom height word = some 0 := by
  induction closes with
  | last nested => exact nested.heightFrom 0
  | next inside _ ih =>
    rw [heightFrom_append, inside.heightFrom, Option.bind_some, heightFrom_cons, heightStep_closing_succ]
    exact ih

theorem plain (noOpening : symbol ≠ opening) (noClosing : symbol ≠ closing) (closes : Closes height word) :
    Closes height (symbol :: word) := by
  cases closes with
  | last nested => exact .last (.plain noOpening noClosing nested)
  | next inside rest => exact .next (.plain noOpening noClosing inside) rest

/-- An opening bracket is matched by the first of the brackets that close a branch from before. -/
theorem opened (closes : Closes (height + 1) word) : Closes height (opening :: word) := by
  cases closes with
  | next inside rest =>
    cases rest with
    | last nested => exact .last (.branch inside nested)
    | @next height between word nested rest =>
      have joined := Closes.next (.branch inside nested) rest
      rwa [List.cons_append, List.append_assoc, List.cons_append] at joined

end Closes

theorem closes_of_heightFrom (reading : heightFrom height word = some 0) : Closes height word := by
  -- The word is read from its front, so the branches that are still open vary.
  induction word generalizing height with
  | nil =>
    obtain rfl : height = 0 := Option.some.inj reading
    exact .last .empty
  | cons symbol word ih =>
    rw [heightFrom_cons] at reading
    by_cases isOpening : symbol = opening
    · subst isOpening
      exact (ih reading).opened
    · by_cases isClosing : symbol = closing
      · subst isClosing
        cases height with
        | zero => cases reading
        | succ height => exact .next .empty (ih reading)
      · rw [heightStep_plain height isOpening isClosing] at reading
        exact (ih reading).plain isOpening isClosing

theorem heightFrom_eq_zero_iff : heightFrom height word = some 0 ↔ Closes height word :=
  ⟨closes_of_heightFrom, Closes.heightFrom⟩

/-- The balanced words are the derived ones. -/
theorem balanced_iff_nested : Balanced word ↔ Nested word := by
  rw [Balanced, balance, heightFrom_eq_zero_iff]
  constructor
  · rintro ⟨nested⟩
    exact nested
  · exact .last

theorem balance_append {first : Word} (reading : balance first = some height) (second : Word) :
    balance (first ++ second) = heightFrom height second := by
  rw [balance, heightFrom_append, ← balance, reading, Option.bind_some]

/-- The reading of a word is zero just if the word is derived, it breaks off just if some beginning
    closes more branches than it opens, and else the counts of the brackets give it. A word behind
    one that leaves branches open is read in the same way, above these. -/
theorem balance_decides (word more : Word) :
    (balance word = some 0 ↔ Nested word) ∧
      (balance word = none ↔ ∃ front, front <+: word ∧ openings front < closings front) ∧
      (∀ height, balance word = some height ↔
        (∀ front, front <+: word → closings front ≤ openings front) ∧
          (height : Int) = openings word - closings word) ∧
      ∀ height, balance word = some height →
        (balance (word ++ more) = none ↔ ∃ front, front <+: more ∧ height + openings front < closings front) ∧
        ∀ last, balance (word ++ more) = some last ↔
          (∀ front, front <+: more → closings front ≤ height + openings front) ∧
            (last : Int) = height + (openings more - closings more) := by
  refine ⟨balanced_iff_nested, ?_, fun height => ?_, fun height reading => ⟨?_, fun last => ?_⟩⟩
  · simp only [balance, heightFrom_eq_none, Nat.zero_add]
  · simp only [balance, heightFrom_eq_some, Nat.zero_add]
    exact and_congr_right fun _ => by omega
  · rw [balance_append reading, heightFrom_eq_none]
  · rw [balance_append reading, heightFrom_eq_some]
    exact and_congr_right fun _ => by omega

/-- A twig that leaves a branch open closes it behind, and breaks off at one more bracket. -/
theorem balance_decides_twig :
    balance (ofText "F[+X") = some 1 ∧
      (balance (ofText "F[+X" ++ ofText "]]") = none ↔
        ∃ front, front <+: ofText "]]" ∧ 1 + openings front < closings front) ∧
      Nested (ofText "F[+X" ++ ofText "[X]-]F") := by
  have reading : balance (ofText "F[+X") = some 1 := by decide
  obtain ⟨breaks, -⟩ := (balance_decides (ofText "F[+X") (ofText "]]")).2.2.2 1 reading
  exact ⟨reading, breaks, (balance_decides (ofText "F[+X" ++ ofText "[X]-]F") []).1.mp (by decide)⟩

end PlantDrawing.Word
