import Mathlib.Algebra.BigOperators.Ring.Finset
import PlantDrawing.Proofs.Generations

/-!
# Nesting of symbols

How often each symbol stands within how many brackets (`Word.occurrences`), and how the rules
of a grammar predict it: what a symbol becomes is balanced, so its symbols stand as deep in the
next generation as they do in the replacement, counted from where the symbol stood. Summed over
all symbols and depths this gives the numbers of one generation from those of the one before it
(`Rules.count_substitute`), and from the start word those of every generation
(`Grammar.occurrences_generation`).
-/
namespace PlantDrawing

namespace Word

/-- The symbol is no bracket. -/
def IsPlain (symbol : Char) : Prop :=
  symbol ≠ opening ∧ symbol ≠ closing

instance (symbol : Char) : Decidable (IsPlain symbol) :=
  inferInstanceAs (Decidable (_ ∧ _))

/-- The heights at which the marked symbols of a word stand, in their order. -/
def heightsOf (marked : Char → Bool) (height : Nat) : Word → List Nat
  | [] => []
  | symbol :: rest =>
    (if marked symbol then [height] else []) ++
      match heightStep height symbol with
      | some next => heightsOf marked next rest
      | none => []

/-- How often a symbol stands within a number of brackets. -/
def occurrences (word : Word) (symbol : Char) (depth : Nat) : Nat :=
  (heightsOf (· == symbol) 0 word).count depth

variable {marked : Char → Bool} {symbol : Char} {word : Word} {height next last depth : Nat}

theorem heightsOf_cons (step : heightStep height symbol = some next) :
    heightsOf marked height (symbol :: word) =
      (if marked symbol then [height] else []) ++ heightsOf marked next word := by
  rw [heightsOf, step]

theorem heightsOf_append {first : Word} (second : Word) (reading : heightFrom height first = some next) :
    heightsOf marked height (first ++ second) = heightsOf marked height first ++ heightsOf marked next second := by
  induction first generalizing height with
  | nil =>
    cases reading
    rfl
  | cons symbol first ih =>
    rw [heightFrom_cons, Option.bind_eq_some_iff] at reading
    obtain ⟨middle, step, rest⟩ := reading
    rw [List.cons_append, heightsOf_cons step, heightsOf_cons step, ih rest, List.append_assoc]

/-- A word that starts higher has its symbols that much higher. -/
theorem heightsOf_add (below : Nat) (reading : heightFrom height word = some last) :
    heightsOf marked (height + below) word = (heightsOf marked height word).map (· + below) := by
  induction word generalizing height with
  | nil => rfl
  | cons symbol word ih =>
    rw [heightFrom_cons, Option.bind_eq_some_iff] at reading
    obtain ⟨next, step, rest⟩ := reading
    have lifted : heightStep (height + below) symbol = some (next + below) := by
      have counted := heightStep_eq_some.mp step
      exact heightStep_eq_some.mpr (by omega)
    rw [heightsOf_cons lifted, heightsOf_cons step, ih rest, List.map_append]
    split <;> rfl

theorem count_map_add (heights : List Nat) (below depth : Nat) :
    (heights.map (· + below)).count depth = if below ≤ depth then heights.count (depth - below) else 0 := by
  by_cases deep : below ≤ depth
  · have split : depth = (depth - below) + below := by omega
    rw [if_pos deep]
    conv_lhs => rw [split]
    exact List.count_map_of_injective heights (· + below) (fun _ _ same => Nat.add_right_cancel same) _
  · rw [if_neg deep, List.count_eq_zero]
    intro member
    obtain ⟨height, -, same⟩ := List.mem_map.mp member
    omega

/-- A balanced word above some brackets has its symbols as deep as on the ground, counted from
    there. -/
theorem Balanced.count_heightsOf (balanced : word.Balanced) (height depth : Nat) (symbol : Char) :
    (heightsOf (· == symbol) height word).count depth =
      if height ≤ depth then word.occurrences symbol (depth - height) else 0 := by
  have lifted : heightsOf (· == symbol) (0 + height) word = _ := heightsOf_add height balanced
  rw [Nat.zero_add] at lifted
  rw [lifted, count_map_add, occurrences]

theorem count_singleton_height (mark : Prop) [Decidable mark] (height depth : Nat) :
    (if mark then [height] else []).count depth = if mark then (if height = depth then 1 else 0) else 0 := by
  split <;> simp [List.count_singleton]

/-- The heights of marked symbols are those of each of them. -/
theorem count_heightsOf_marked {symbols : Finset Char} (listed : ∀ symbol, marked symbol = true ↔ symbol ∈ symbols)
    (height depth : Nat) (word : Word) :
    (heightsOf marked height word).count depth =
      ∑ symbol ∈ symbols, (heightsOf (· == symbol) height word).count depth := by
  induction word generalizing height with
  | nil => simp [heightsOf]
  | cons first word ih =>
    have head : (if marked first then [height] else []).count depth =
        ∑ symbol ∈ symbols, (if first == symbol then [height] else []).count depth := by
      simp only [count_singleton_height, beq_iff_eq, Finset.sum_ite_eq, listed]
    simp only [heightsOf, List.count_append, Finset.sum_add_distrib, head]
    cases heightStep height first with
    | none => simp
    | some next => simp only [ih]

theorem mem_of_heightsOf {height' : Nat} (member : height' ∈ heightsOf (· == symbol) height word) : symbol ∈ word := by
  induction word generalizing height with
  | nil => cases member
  | cons first word ih =>
    rw [heightsOf, List.mem_append] at member
    rcases member with here | later
    · by_cases same : first = symbol
      · exact same ▸ List.mem_cons_self
      · simp [same] at here
    · cases step : heightStep height first with
      | none => simp [step] at later
      | some next =>
        simp only [step] at later
        exact List.mem_cons_of_mem _ (ih later)

theorem occurrences_of_notMem (absent : symbol ∉ word) (depth : Nat) : word.occurrences symbol depth = 0 :=
  List.count_eq_zero.mpr fun member => absent (mem_of_heightsOf member)

end Word

/-! ## One generation -/

namespace Rules

variable {rules : Rules}

theorem replacement_balanced (sound : ∀ rule ∈ rules.entries, rule.Sound) {symbol : Char}
    (plain : Word.IsPlain symbol) : (rules.replacement symbol).Balanced :=
  (heightFrom_replacement sound 0 symbol).trans (Word.heightStep_plain 0 plain.1 plain.2)

theorem replacement_bracket (sound : ∀ rule ∈ rules.entries, rule.Sound) {symbol : Char}
    (bracket : ¬ Word.IsPlain symbol) : rules.replacement symbol = [symbol] := by
  rcases rules.replacement_cases symbol with kept | ⟨rule, member, keyed, -⟩
  · exact kept
  · have ruleSound := sound rule member
    refine absurd ⟨?_, ?_⟩ bracket
    · rintro rfl
      exact ruleSound.noOpening keyed
    · rintro rfl
      exact ruleSound.noClosing keyed

/-- What one symbol becomes has its symbols as deep as in the replacement, counted from where
    the symbol stood. -/
theorem count_replacement (sound : ∀ rule ∈ rules.entries, rule.Sound) {symbols : Finset Char} {first symbol : Char}
    (plain : Word.IsPlain symbol) (listed : ∀ other, other ∈ symbols → Word.IsPlain other)
    (covered : Word.IsPlain first → first ∈ symbols) (height depth : Nat) :
    (Word.heightsOf (· == symbol) height (rules.replacement first)).count depth =
      ∑ before ∈ symbols, ∑ level ∈ Finset.range (depth + 1),
        (if first == before then [height] else []).count level *
          (rules.replacement before).occurrences symbol (depth - level) := by
  simp only [Word.count_singleton_height, beq_iff_eq, ite_mul, one_mul, zero_mul]
  by_cases bracket : Word.IsPlain first
  · -- Only the symbol itself and its own height add to the sums.
    rw [(replacement_balanced sound bracket).count_heightsOf, Finset.sum_eq_single_of_mem first (covered bracket)]
    · simp only [↓reduceIte, Finset.sum_ite_eq, Finset.mem_range, Nat.lt_succ_iff]
    · intro other _ different
      simp [different.symm]
  · have other : first ≠ symbol := by
      rintro rfl
      exact bracket plain
    rw [replacement_bracket sound bracket, Finset.sum_eq_zero]
    · cases step : Word.heightStep height first <;> simp [Word.heightsOf, step, other]
    · intro before member
      have different : first ≠ before := by
        rintro rfl
        exact bracket (listed first member)
      simp [different]

/-- The numbers of the next generation of a word: each symbol brings those of its replacement,
    as much deeper as it stands. -/
theorem count_substitute (sound : ∀ rule ∈ rules.entries, rule.Sound) {symbols : Finset Char} {symbol : Char}
    (plain : Word.IsPlain symbol) (listed : ∀ other, other ∈ symbols → Word.IsPlain other) {word : Word} {height last : Nat}
    (covered : ∀ other ∈ word, Word.IsPlain other → other ∈ symbols)
    (reading : Word.heightFrom height word = some last) (depth : Nat) :
    (Word.heightsOf (· == symbol) height (rules.substitute word)).count depth =
      ∑ before ∈ symbols, ∑ level ∈ Finset.range (depth + 1),
        (Word.heightsOf (· == before) height word).count level *
          (rules.replacement before).occurrences symbol (depth - level) := by
  induction word generalizing height with
  | nil => simp [Word.heightsOf]
  | cons first word ih =>
    obtain ⟨coveredFirst, coveredRest⟩ := List.forall_mem_cons.mp covered
    rw [Word.heightFrom_cons, Option.bind_eq_some_iff] at reading
    obtain ⟨next, step, rest⟩ := reading
    have replaced := (heightFrom_replacement sound height first).trans step
    rw [substitute_cons, Word.heightsOf_append _ replaced, List.count_append,
      count_replacement sound plain listed coveredFirst, ih coveredRest rest]
    simp only [Word.heightsOf_cons step, List.count_append, Nat.add_mul, Finset.sum_add_distrib]

end Rules

/-! ## All generations -/

namespace Grammar

variable {grammar : Grammar}

/-- The symbols that the start word and the replacements hold, brackets apart. -/
def symbols (grammar : Grammar) : Finset Char :=
  ((grammar.start ++ grammar.rules.entries.flatMap Rule.replacement).filter fun symbol =>
    decide (Word.IsPlain symbol)).toFinset

/-- How often a symbol stands within a number of brackets after a number of generations, as the
    rules tell it: at first as in the start word, and then each symbol brings what its
    replacement holds, as much deeper as it stands itself. -/
def predicted (grammar : Grammar) : (count : Nat) → Char → (depth : Nat) → Nat
  | 0, symbol, depth => grammar.start.occurrences symbol depth
  | count + 1, symbol, depth =>
    ∑ before ∈ grammar.symbols, ∑ level ∈ Finset.range (depth + 1),
      grammar.predicted count before level *
        (grammar.rules.replacement before).occurrences symbol (depth - level)

theorem mem_symbols {symbol : Char} :
    symbol ∈ grammar.symbols ↔
      (symbol ∈ grammar.start ∨ ∃ rule ∈ grammar.rules.entries, symbol ∈ rule.replacement) ∧ Word.IsPlain symbol := by
  simp [symbols, or_and_right]

/-- No generation has symbols but those of the start word and of the replacements. -/
theorem mem_symbols_of_generation {count : Nat} {symbol : Char}
    (member : symbol ∈ grammar.rules.generation count grammar.start) (plain : Word.IsPlain symbol) :
    symbol ∈ grammar.symbols := by
  induction count generalizing symbol with
  | zero => exact mem_symbols.mpr ⟨.inl member, plain⟩
  | succ count ih =>
    rw [Rules.generation_succ, Rules.substitute, List.mem_flatMap] at member
    obtain ⟨before, present, made⟩ := member
    rcases grammar.rules.replacement_cases before with kept | ⟨rule, listed, -, replaced⟩
    · rw [kept, List.mem_singleton] at made
      exact ih (made ▸ present) plain
    · exact mem_symbols.mpr ⟨.inr ⟨rule, listed, replaced ▸ made⟩, plain⟩

/-- Every generation of an accepted grammar has the numbers that its rules predict. -/
theorem occurrences_generation (accepted : grammar.Accepted) (count : Nat) {symbol : Char}
    (plain : Word.IsPlain symbol) (depth : Nat) :
    (grammar.rules.generation count grammar.start).occurrences symbol depth =
      grammar.predicted count symbol depth := by
  induction count generalizing symbol depth with
  | zero => rfl
  | succ count ih =>
    have balanced := (Rules.heightFrom_generation accepted.rules 0 count grammar.start).trans accepted.balanced
    rw [Rules.generation_succ, Word.occurrences,
      Rules.count_substitute accepted.rules plain (fun _ member => (mem_symbols.mp member).2)
        (fun _ member plain => mem_symbols_of_generation member plain) balanced, predicted]
    refine Finset.sum_congr rfl fun before member => Finset.sum_congr rfl fun level _ => ?_
    rw [← ih (mem_symbols.mp member).2]
    rfl

/-- A symbol that neither the start word nor a replacement holds does not come up. -/
theorem predicted_of_notMem (accepted : grammar.Accepted) (count : Nat) {symbol : Char}
    (plain : Word.IsPlain symbol) (absent : symbol ∉ grammar.symbols) (depth : Nat) :
    grammar.predicted count symbol depth = 0 := by
  rw [← occurrences_generation accepted count plain]
  exact Word.occurrences_of_notMem (fun member => absent (mem_symbols_of_generation member plain)) depth

end Grammar

end PlantDrawing
