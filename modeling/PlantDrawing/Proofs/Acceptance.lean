import PlantDrawing.Grammar
import PlantDrawing.Proofs.BracketCounts
import PlantDrawing.Proofs.Outcome

/-!
# Accepted grammars

What the checks of a grammar establish, as one condition on its rules
(`Rule.Sound`) and one on the grammar (`Grammar.Accepted`), and what a symbol
becomes under sound rules: a word that reads, at any height, like the symbol
itself (`Rules.heightFrom_replacement`).
-/
namespace PlantDrawing

/-- A rule that keeps brackets together: its key is one symbol and no bracket,
    and its replacement is balanced. -/
structure Rule.Sound (rule : Rule) : Prop where
  oneSymbol : rule.key.length = 1
  noOpening : rule.key ≠ [Word.opening]
  noClosing : rule.key ≠ [Word.closing]
  balanced : rule.replacement.Balanced

/-- Everything that is checked of a grammar. -/
structure Grammar.Accepted (grammar : Grammar) : Prop where
  nonempty : grammar.start ≠ []
  iterations : 0 ≤ grammar.maxIterations
  balanced : grammar.start.Balanced
  rules : ∀ rule ∈ grammar.rules.entries, rule.Sound

namespace Grammar

theorem checkRule_eq_ok {rule : Rule} : checkRule rule = .ok () ↔ rule.Sound := by
  unfold checkRule
  by_cases oneSymbol : rule.key.length = 1
  · rw [if_neg (not_not_intro oneSymbol)]
    by_cases bracket : rule.key = [Word.opening] ∨ rule.key = [Word.closing]
    · rw [if_pos bracket]
      refine ⟨nofun, fun sound => ?_⟩
      rcases bracket with isOpening | isClosing
      · exact absurd isOpening sound.noOpening
      · exact absurd isClosing sound.noClosing
    · rw [if_neg bracket]
      obtain ⟨noOpening, noClosing⟩ := not_or.mp bracket
      by_cases balanced : rule.replacement.Balanced
      · rw [if_neg (not_not_intro balanced)]
        exact ⟨fun _ => ⟨oneSymbol, noOpening, noClosing, balanced⟩, fun _ => rfl⟩
      · rw [if_pos balanced]
        exact ⟨nofun, fun sound => absurd sound.balanced balanced⟩
  · rw [if_pos oneSymbol]
    exact ⟨nofun, fun sound => absurd sound.oneSymbol oneSymbol⟩

theorem checkRules_eq_ok {rules : List Rule} :
    checkRules rules = .ok () ↔ ∀ rule ∈ rules, rule.Sound := by
  induction rules with
  | nil => simp [checkRules]
  | cons rule rest ih =>
    rw [checkRules, Outcome.bind_eq_ok, List.forall_mem_cons, ← ih, ← checkRule_eq_ok]
    exact ⟨fun ⟨_, first, others⟩ => ⟨first, others⟩, fun ⟨first, others⟩ => ⟨(), first, others⟩⟩

theorem faultOf_eq_ok {grammar : Grammar} : grammar.faultOf = .ok () ↔ grammar.Accepted := by
  unfold faultOf
  by_cases empty : grammar.start = []
  · rw [if_pos empty]
    exact ⟨nofun, fun accepted => absurd empty accepted.nonempty⟩
  · rw [if_neg empty]
    by_cases negative : grammar.maxIterations < 0
    · rw [if_pos negative]
      refine ⟨nofun, fun accepted => ?_⟩
      have := accepted.iterations
      omega
    · rw [if_neg negative]
      by_cases balanced : grammar.start.Balanced
      · rw [if_neg (not_not_intro balanced), checkRules_eq_ok]
        exact ⟨fun rules => ⟨empty, by omega, balanced, rules⟩, Accepted.rules⟩
      · rw [if_pos balanced]
        exact ⟨nofun, fun accepted => absurd accepted.balanced balanced⟩

/-- The checks pass exactly for the accepted grammars. -/
theorem check_eq_ok {grammar : Grammar} : grammar.check = .ok () ↔ grammar.Accepted := by
  rw [check, Outcome.mapError_eq_ok, faultOf_eq_ok]

/-- With another start word that is balanced, an accepted grammar stays accepted
    unless that word is empty. -/
theorem Accepted.restart {grammar : Grammar} (accepted : grammar.Accepted) {word : Word}
    (balanced : word.Balanced) : Accepted { grammar with start := word } ↔ word ≠ [] :=
  ⟨Accepted.nonempty, fun nonempty => ⟨nonempty, accepted.iterations, balanced, accepted.rules⟩⟩

end Grammar

namespace Rules

/-- A symbol becomes itself or the replacement of one of the rules for it. -/
theorem replacement_cases (rules : Rules) (symbol : Char) :
    rules.replacement symbol = [symbol] ∨
      ∃ rule ∈ rules.entries, rule.key = [symbol] ∧ rules.replacement symbol = rule.replacement := by
  unfold replacement
  cases found : rules.entries.find? fun rule => rule.key = [symbol] with
  | none => exact .inl rfl
  | some rule =>
    have keyed : rule.key = [symbol] := by simpa using List.find?_some found
    exact .inr ⟨rule, List.mem_of_find?_eq_some found, keyed, rfl⟩

/-- Under sound rules what a symbol becomes reads like the symbol itself: a
    bracket stays, and all else is replaced by something balanced. -/
theorem heightFrom_replacement {rules : Rules} (sound : ∀ rule ∈ rules.entries, rule.Sound)
    (height : Nat) (symbol : Char) :
    Word.heightFrom height (rules.replacement symbol) = Word.heightStep height symbol := by
  rcases rules.replacement_cases symbol with kept | ⟨rule, member, keyed, replaced⟩
  · rw [kept, Word.heightFrom_cons]
    simp
  · have ruleSound := sound rule member
    have noOpening : symbol ≠ Word.opening := by
      rintro rfl
      exact ruleSound.noOpening keyed
    have noClosing : symbol ≠ Word.closing := by
      rintro rfl
      exact ruleSound.noClosing keyed
    rw [replaced, ruleSound.balanced.heightFrom, Word.heightStep_plain height noOpening noClosing]

end Rules

end PlantDrawing
