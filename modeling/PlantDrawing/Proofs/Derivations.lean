import PlantDrawing.Proofs.Limits

/-!
# Derivations

A generation replaces the symbols of a whole word at once. It can also be made symbol by symbol:
every symbol derives a word of its own, through the symbols of its replacement in turn, and these
words one after another are the generation (`Rules.generation_eq_flatMap`). And many generations
can be made in two parts, the second from where the first has come to (`Rules.generation_add`). So
an expansion without a limit is a depth-first derivation (`Grammar.expansion_depth_first`), and
under any limit it can be stopped and resumed, and fails in the same generation
(`Grammar.expansion_resumed`).
-/
namespace PlantDrawing

namespace Rules

/-- What a symbol derives in a number of steps: all that the first symbol of its replacement
    derives, then all that the second does, and so on. -/
def derived (rules : Rules) : (steps : Nat) → Char → Word
  | 0, symbol => [symbol]
  | steps + 1, symbol => (rules.replacement symbol).flatMap (rules.derived steps)

/-- The first generations of a word, up to a number, have no more symbols than the limit
    allows. -/
def StaysWithin (rules : Rules) (limit : Option Int) (count : Nat) (word : Word) : Prop :=
  ∀ later, 1 ≤ later → later ≤ count → ¬ (rules.generation later word).Exceeds limit

variable {limit : Option Int} {first second : Nat} {word : Word}

/-- A generation of a word is what its symbols derive, in their order. -/
theorem generation_eq_flatMap (rules : Rules) (count : Nat) (word : Word) :
    rules.generation count word = word.flatMap (rules.derived count) := by
  -- For every word at once: one substitution changes the word that the others start from.
  induction count generalizing word with
  | zero => exact (List.flatMap_singleton' word).symm
  | succ count ih =>
    rw [generation, ih, substitute, List.flatMap_assoc]
    rfl

/-- Two kinds of cells, of which one divides into both and the other becomes the one. -/
example : Rules.derived (.ofList [⟨['A'], ['A', 'B']⟩, ⟨['B'], ['A']⟩]) 3 'A' = Word.ofText "ABAAB" := by decide

theorem generation_append (rules : Rules) (count : Nat) (left right : Word) :
    rules.generation count (left ++ right) =
      rules.generation count left ++ rules.generation count right := by
  simp only [generation_eq_flatMap, List.flatMap_append]

theorem generation_add (rules : Rules) (first second : Nat) (word : Word) :
    rules.generation (first + second) word = rules.generation second (rules.generation first word) := by
  induction first generalizing word with
  | zero => rw [Nat.zero_add, generation]
  | succ first ih =>
    rw [Nat.add_right_comm, generation, ih]
    rfl

theorem staysWithin_add {rules : Rules} :
    rules.StaysWithin limit (first + second) word ↔
      rules.StaysWithin limit first word ∧ rules.StaysWithin limit second (rules.generation first word) := by
  constructor
  · intro within
    refine ⟨fun later least most => within later least (by omega), fun later least most => ?_⟩
    rw [← generation_add]
    exact within (first + later) (by omega) (by omega)
  · rintro ⟨early, late⟩ later least most
    by_cases before : later ≤ first
    · exact early later least before
    · obtain ⟨beyond, rfl⟩ : ∃ beyond, later = first + beyond := ⟨later - first, by omega⟩
      rw [generation_add]
      exact late beyond (by omega) (by omega)

end Rules

namespace Grammar

variable {grammar : Grammar} {limit : Option Int} {first second count generation : Nat} {word middle : Word}
  {bound : Int}

/-- An expansion fails in the generation that exceeds the limit after none has before. -/
theorem expand_fails_iff :
    grammar.expand count limit = .error (.expansionLimit grammar.name bound generation count) ↔
      limit = some bound ∧ 1 ≤ generation ∧ generation ≤ count ∧
        bound < (grammar.rules.generation generation grammar.start).length ∧
        grammar.rules.StaysWithin limit (generation - 1) grammar.start := by
  rw [expand_eq_error]
  constructor
  · rintro ⟨bound, generation, limited, least, most, ⟨⟩, more, earliest⟩
    exact ⟨limited, least, most, more, fun earlier low high => earliest earlier low (by omega)⟩
  · rintro ⟨limited, least, most, more, within⟩
    exact ⟨bound, generation, limited, least, most, rfl, more, fun earlier low less => within earlier low (by omega)⟩

/-- The words of all symbols of the start word, each derived on its own and one after another,
    are the word of an expansion without a limit. So from two words one after another it gives
    the words that it gives from each. -/
theorem expansion_depth_first (grammar : Grammar) (count : Nat) :
    grammar.expandCounted (.int count) none = .ok (grammar.start.flatMap (grammar.rules.derived count)) ∧
      ∀ left right : Word, ∃ fromLeft fromRight : Word,
        expandCounted { grammar with start := left } (.int count) none = .ok fromLeft ∧
        expandCounted { grammar with start := right } (.int count) none = .ok fromRight ∧
        expandCounted { grammar with start := left ++ right } (.int count) none =
          .ok (fromLeft ++ fromRight) := by
  have expanded (word : Word) :
      expandCounted { grammar with start := word } (.int count) none =
        .ok (grammar.rules.generation count word) :=
    expandCounted_count.trans expand_unlimited
  refine ⟨?_, fun left right => ⟨_, _, expanded left, expanded right, ?_⟩⟩
  · rw [← Rules.generation_eq_flatMap]
    exact expanded grammar.start
  · rw [expanded, Rules.generation_append]

/-! ## In two parts -/

theorem expand_add_eq_ok :
    grammar.expand (first + second) limit = .ok word ↔
      ∃ middle, grammar.expand first limit = .ok middle ∧
        expand { grammar with start := middle } second limit = .ok word := by
  constructor
  · intro expanded
    obtain ⟨rfl, within⟩ := expand_eq_ok.mp expanded
    obtain ⟨early, late⟩ := Rules.staysWithin_add.mp within
    exact ⟨_, expand_eq_ok.mpr ⟨rfl, early⟩, expand_eq_ok.mpr ⟨Rules.generation_add .., late⟩⟩
  · rintro ⟨middle, stopped, resumed⟩
    obtain ⟨rfl, early⟩ := expand_eq_ok.mp stopped
    obtain ⟨rfl, late⟩ := expand_eq_ok.mp resumed
    exact expand_eq_ok.mpr ⟨(Rules.generation_add ..).symm, Rules.staysWithin_add.mpr ⟨early, late⟩⟩

/-- Past the first part an expansion fails where the second part does, counted from there. -/
theorem expand_resumed_fails_iff (stopped : grammar.expand first limit = .ok middle) :
    expand { grammar with start := middle } second limit =
        .error (.expansionLimit grammar.name bound generation second) ↔
      grammar.expand (first + second) limit =
        .error (.expansionLimit grammar.name bound (first + generation) (first + second)) := by
  obtain ⟨rfl, early⟩ := expand_eq_ok.mp stopped
  simp only [expand_fails_iff, Rules.generation_add]
  constructor
  · rintro ⟨limited, least, most, more, late⟩
    refine ⟨limited, by omega, by omega, more, ?_⟩
    rw [Nat.add_sub_assoc least]
    exact Rules.staysWithin_add.mpr ⟨early, late⟩
  · rintro ⟨limited, least, most, more, within⟩
    -- The last generation of the first part has been checked already.
    have beyond : 1 ≤ generation := by
      refine Nat.pos_of_ne_zero ?_
      rintro rfl
      exact early first least (Nat.le_refl first) ⟨bound, limited, more⟩
    rw [Nat.add_sub_assoc beyond] at within
    exact ⟨limited, beyond, by omega, more, (Rules.staysWithin_add.mp within).2⟩

theorem expand_early_fails_iff (early : generation ≤ first) :
    grammar.expand first limit = .error (.expansionLimit grammar.name bound generation first) ↔
      grammar.expand (first + second) limit =
        .error (.expansionLimit grammar.name bound generation (first + second)) := by
  have most : generation ≤ first + second := by omega
  simp only [expand_fails_iff, early, most, true_and]

/-- An expansion can be stopped after any generation and resumed from the word it has come to,
    under a limit or none. It gives a word exactly if both parts do, and then it is that of the
    second. It fails in a generation of the first part if that part fails there, and it fails
    past the first part if the second fails, as many generations later as the first part has. -/
theorem expansion_resumed (grammar : Grammar) (first second : Nat) (limit : Option Int) :
    (∀ word, grammar.expandCounted (.int (first + second : Nat)) limit = .ok word ↔
        ∃ middle, grammar.expandCounted (.int first) limit = .ok middle ∧
          expandCounted { grammar with start := middle } (.int second) limit = .ok word) ∧
      (∀ middle, grammar.expandCounted (.int first) limit = .ok middle →
        (∀ fault, expandCounted { grammar with start := middle } (.int second) limit = .error fault →
          ∃ bound generation, fault = .expansionLimit grammar.name bound generation second) ∧
        ∀ bound generation,
          expandCounted { grammar with start := middle } (.int second) limit =
              .error (.expansionLimit grammar.name bound generation second) ↔
            grammar.expandCounted (.int (first + second : Nat)) limit =
              .error (.expansionLimit grammar.name bound (first + generation) (first + second))) ∧
      ∀ bound generation, generation ≤ first →
        (grammar.expandCounted (.int first) limit =
            .error (.expansionLimit grammar.name bound generation first) ↔
          grammar.expandCounted (.int (first + second : Nat)) limit =
            .error (.expansionLimit grammar.name bound generation (first + second))) := by
  simp only [expandCounted_count]
  refine ⟨fun word => expand_add_eq_ok, fun middle stopped => ⟨?_, fun bound generation => ?_⟩, ?_⟩
  · intro fault failed
    obtain ⟨bound, generation, -, -, -, same, -⟩ := expand_eq_error.mp failed
    exact ⟨bound, generation, same⟩
  · exact expand_resumed_fails_iff stopped
  · exact fun bound generation early => expand_early_fails_iff early

/-- The second generation of the weed has more than twenty symbols, so after one generation that
    has fewer the next one fails, and two generations at once fail in the second. -/
theorem resumed_weed_fails :
    ∃ middle, Catalog.weed.expandCounted (.int (1 : Nat)) (some 20) = .ok middle ∧
      Grammar.expandCounted { Catalog.weed with start := middle } (.int (1 : Nat)) (some 20) =
        .error (.expansionLimit "weed" 20 1 1) ∧
      Catalog.weed.expandCounted (.int (1 + 1 : Nat)) (some 20) =
        .error (.expansionLimit "weed" 20 (1 + 1) (1 + 1)) ∧
      ∀ word, Catalog.weed.expandCounted (.int (1 + 1 : Nat)) (some 20) ≠ .ok word := by
  obtain ⟨succeeds, fails, -⟩ := expansion_resumed Catalog.weed 1 1 (some 20)
  have stopped : Catalog.weed.expandCounted (.int (1 : Nat)) (some 20) = .ok (Word.ofText "F[+X]F[-X]+X") := by rfl
  have resumed : Grammar.expandCounted { Catalog.weed with start := Word.ofText "F[+X]F[-X]+X" } (.int (1 : Nat))
      (some 20) = .error (.expansionLimit "weed" 20 1 1) := by rfl
  refine ⟨_, stopped, resumed, ((fails _ stopped).2 20 1).mp resumed, fun word expanded => ?_⟩
  obtain ⟨middle, reached, ended⟩ := (succeeds word).mp expanded
  obtain rfl : Word.ofText "F[+X]F[-X]+X" = middle := Except.ok.inj (stopped.symm.trans reached)
  rw [resumed] at ended
  cases ended

end Grammar

end PlantDrawing
