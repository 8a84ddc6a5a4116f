import PlantDrawing.Catalog
import PlantDrawing.Expansion
import PlantDrawing.Proofs.Acceptance

/-!
# Generations

What an expansion returns is a generation of the start word
(`Grammar.expandCounted_generation`). One substitution by sound rules leaves the
height at the end of every symbol as it was (`Rules.heightFrom_substitute`), so
a word and all its generations read alike, and every word that an accepted
grammar expands to is balanced (`Grammar.expanded_word_balanced`).
-/
namespace PlantDrawing

/-- A word after a number of substitutions. -/
def Rules.generation (rules : Rules) : Nat → Word → Word
  | 0, word => word
  | count + 1, word => rules.generation count (rules.substitute word)

/-- The next generation of a word replaces the symbols of the one before it. -/
theorem Rules.generation_succ (rules : Rules) (count : Nat) (word : Word) :
    rules.generation (count + 1) word = rules.substitute (rules.generation count word) := by
  induction count generalizing word with
  | zero => rfl
  | succ count ih =>
    rw [generation, ih (rules.substitute word)]
    rfl

/-! ## Heights -/

namespace Rules

theorem substitute_cons (rules : Rules) (symbol : Char) (word : Word) :
    rules.substitute (symbol :: word) = rules.replacement symbol ++ rules.substitute word :=
  List.flatMap_cons

/-- Under sound rules the next generation of a word reads like the word. -/
theorem heightFrom_substitute {rules : Rules} (sound : ∀ rule ∈ rules.entries, rule.Sound)
    (height : Nat) (word : Word) :
    Word.heightFrom height (rules.substitute word) = Word.heightFrom height word := by
  induction word generalizing height with
  | nil => rfl
  | cons symbol word ih =>
    rw [substitute_cons, Word.heightFrom_append, heightFrom_replacement sound, Word.heightFrom_cons]
    simp only [ih]

/-- Under sound rules every generation of a word reads like the word. -/
theorem heightFrom_generation {rules : Rules} (sound : ∀ rule ∈ rules.entries, rule.Sound)
    (height count : Nat) (word : Word) :
    Word.heightFrom height (rules.generation count word) = Word.heightFrom height word := by
  induction count generalizing word with
  | zero => rfl
  | succ count ih => rw [generation, ih, heightFrom_substitute sound]

end Rules

/-! ## Expansions -/

namespace Grammar

/-- Unless the limit stops it, an expansion makes one generation after another. -/
theorem expandFrom_generation {grammar : Grammar} {limit : Option Int}
    {requested remaining done : Nat} {word result : Word}
    (expanded : grammar.expandFrom limit requested remaining done word = .ok result) :
    result = grammar.rules.generation remaining word := by
  induction remaining generalizing done word with
  | zero => exact (Except.ok.inj expanded).symm
  | succ remaining ih =>
    rw [expandFrom] at expanded
    cases stopped : exceeded? limit (grammar.rules.substitute word) with
    | some bound =>
      simp only [stopped] at expanded
      cases expanded
    | none =>
      simp only [stopped] at expanded
      exact ih expanded

theorem expandCounted_generation {grammar : Grammar} {iterations : Json} {limit : Option Int}
    {word : Word} (expanded : grammar.expandCounted iterations limit = .ok word) :
    ∃ count, iterations.toIterations = .ok count ∧
      word = grammar.rules.generation count grammar.start := by
  obtain ⟨count, counted, made⟩ := Outcome.bind_eq_ok.mp expanded
  exact ⟨count, counted, expandFrom_generation made⟩

/-- Every word that an accepted grammar expands to is balanced. -/
theorem Accepted.balanced_expansion {grammar : Grammar} (accepted : grammar.Accepted)
    {iterations : Json} {limit : Option Int} {word : Word}
    (expanded : grammar.expandCounted iterations limit = .ok word) : word.Balanced := by
  obtain ⟨count, -, rfl⟩ := expandCounted_generation expanded
  have reading := Rules.heightFrom_generation accepted.rules 0 count grammar.start
  exact reading.trans accepted.balanced

/-- Every word that an accepted grammar expands to, under whatever limit, is
    balanced: it closes every branch it opens and never one that is not open.
    The grammar that starts from that word is accepted in turn, unless rules
    that delete symbols have left nothing of it. -/
theorem expanded_word_balanced {grammar : Grammar} {iterations : Json} {limit : Option Int}
    {word : Word} (accepted : grammar.check = .ok ())
    (expanded : grammar.expandCounted iterations limit = .ok word) :
    word.balance = some 0 ∧
      (∀ front : Word, front <+: word → front.closings ≤ front.openings) ∧
      word.closings = word.openings ∧
      (Grammar.check { grammar with start := word } = .ok () ↔ word ≠ []) := by
  have conditions := check_eq_ok.mp accepted
  have balanced : word.Balanced := conditions.balanced_expansion expanded
  obtain ⟨fronts, total⟩ := Word.balanced_iff.mp balanced
  exact ⟨balanced, fronts, total, check_eq_ok.trans (conditions.restart balanced)⟩

/-- Two generations of the weed. -/
theorem expanded_weed_balanced :
    ∃ word, word = Word.ofText "FF[+F[+X]F[-X]+X]FF[-F[+X]F[-X]+X]+F[+X]F[-X]+X" ∧
      Catalog.weed.check = .ok () ∧ Catalog.weed.expandCounted (.int 2) (some 50) = .ok word ∧
      word.balance = some 0 ∧ (∀ front : Word, front <+: word → front.closings ≤ front.openings) ∧
      word.closings = word.openings ∧
      (Grammar.check { Catalog.weed with start := word } = .ok () ↔ word ≠ []) := by
  have accepted : Catalog.weed.check = .ok () := by rfl
  have expanded : Catalog.weed.expandCounted (.int 2) (some 50) =
      .ok (Word.ofText "FF[+F[+X]F[-X]+X]FF[-F[+X]F[-X]+X]+F[+X]F[-X]+X") := by rfl
  exact ⟨_, rfl, accepted, expanded, expanded_word_balanced accepted expanded⟩

end Grammar

end PlantDrawing
