import Mathlib.Data.List.Nodup
import Mathlib.Logic.Equiv.Basic
import PlantDrawing.Proofs.Generations
import PlantDrawing.Turtle

/-!
# Renaming symbols

Apart from brackets and turns, what a symbol means is all in its grammar: in the rules and in the
alphabet. So a grammar can be given other symbols throughout. Everything that is made of it
follows the new names: the heights of a word (`Renaming.heightFrom_word`), a substitution
(`Renaming.substitute_word`), the commands that the turtle gets (`Renaming.commands_word`). Hence the
renamed grammar is accepted when the old one is, its words are those of the old one under their new
names, and they are drawn alike (`Renaming.grammar_alike`).
-/
namespace PlantDrawing

/-- New names for symbols: no two share one, and brackets and turns keep theirs. -/
structure Renaming where
  /-- The new name of a symbol. -/
  symbol : Equiv.Perm Char
  opening : symbol Word.opening = Word.opening
  closing : symbol Word.closing = Word.closing
  leftTurn : symbol Word.leftTurn = Word.leftTurn
  rightTurn : symbol Word.rightTurn = Word.rightTurn

namespace Renaming

variable {names : Renaming}

/-- A word under the new names of its symbols. -/
def word (names : Renaming) (word : Word) : Word := word.map names.symbol

theorem word_injective : Function.Injective names.word :=
  List.map_injective_iff.mpr names.symbol.injective

@[simp] theorem word_cons (symbol : Char) (word : Word) :
    names.word (symbol :: word) = names.symbol symbol :: names.word word := rfl

@[simp] theorem length_word (word : Word) : (names.word word).length = word.length :=
  List.length_map names.symbol

/-- A rule under the new names. -/
def rule (names : Renaming) (rule : Rule) : Rule :=
  ⟨names.word rule.key, names.word rule.replacement⟩

/-- Rules under the new names, in their order. -/
def rules (names : Renaming) (rules : Rules) : Rules where
  entries := rules.entries.map names.rule
  keys_nodup := by
    have keys : (rules.entries.map names.rule).map Rule.key = (rules.entries.map Rule.key).map names.word := by
      simp only [List.map_map]
      rfl
    rw [keys]
    exact rules.keys_nodup.map word_injective

/-- An alphabet under the new names. -/
def alphabet (names : Renaming) (alphabet : Alphabet) : Alphabet :=
  ⟨alphabet.draw.map names.word, alphabet.move.map names.word⟩

/-- A grammar under the new names: its start word, its rules and its alphabet. -/
def grammar (names : Renaming) (grammar : Grammar) : Grammar :=
  { grammar with
    start := names.word grammar.start
    rules := names.rules grammar.rules
    alphabet := names.alphabet grammar.alphabet }

/-- No symbol gets the name of one that keeps its own. -/
theorem symbol_eq_iff {fixed symbol : Char} (kept : names.symbol fixed = fixed) :
    names.symbol symbol = fixed ↔ symbol = fixed :=
  names.symbol.injective.eq_iff' kept

theorem word_eq_singleton_iff {fixed : Char} {word : Word} (kept : names.symbol fixed = fixed) :
    names.word word = [fixed] ↔ word = [fixed] :=
  word_injective.eq_iff' (congrArg (fun symbol => [symbol]) kept)

/-! ## Acceptance -/

theorem heightStep_symbol (height : Nat) (symbol : Char) :
    Word.heightStep height (names.symbol symbol) = Word.heightStep height symbol := by
  simp only [Word.heightStep, symbol_eq_iff names.opening, symbol_eq_iff names.closing]

/-- A renamed word reads like the word. -/
theorem heightFrom_word (height : Nat) (word : Word) :
    Word.heightFrom height (names.word word) = Word.heightFrom height word := by
  induction word generalizing height with
  | nil => rfl
  | cons symbol word ih =>
    rw [word_cons, Word.heightFrom_cons, Word.heightFrom_cons, heightStep_symbol]
    simp only [ih]

theorem balanced_word {word : Word} : (names.word word).Balanced ↔ word.Balanced := by
  rw [Word.Balanced, Word.balance, heightFrom_word]
  rfl

theorem sound_rule {rule : Rule} : (names.rule rule).Sound ↔ rule.Sound := by
  have oneSymbol : (names.rule rule).key.length = rule.key.length := length_word rule.key
  have opening : (names.rule rule).key = [Word.opening] ↔ rule.key = [Word.opening] :=
    word_eq_singleton_iff names.opening
  have closing : (names.rule rule).key = [Word.closing] ↔ rule.key = [Word.closing] :=
    word_eq_singleton_iff names.closing
  have balanced : (names.rule rule).replacement.Balanced ↔ rule.replacement.Balanced := balanced_word
  constructor
  · intro sound
    exact ⟨oneSymbol ▸ sound.oneSymbol, mt opening.mpr sound.noOpening, mt closing.mpr sound.noClosing,
      balanced.mp sound.balanced⟩
  · intro sound
    exact ⟨oneSymbol.trans sound.oneSymbol, mt opening.mp sound.noOpening, mt closing.mp sound.noClosing,
      balanced.mpr sound.balanced⟩

theorem accepted_grammar {grammar : Grammar} : (names.grammar grammar).Accepted ↔ grammar.Accepted := by
  have rules : (∀ rule ∈ (names.rules grammar.rules).entries, rule.Sound) ↔
      ∀ rule ∈ grammar.rules.entries, rule.Sound := by
    simp only [Renaming.rules, List.forall_mem_map, sound_rule]
  constructor
  · intro accepted
    refine ⟨?_, accepted.iterations, balanced_word.mp accepted.balanced, rules.mp accepted.rules⟩
    intro empty
    exact accepted.nonempty (congrArg names.word empty)
  · intro accepted
    refine ⟨?_, accepted.iterations, balanced_word.mpr accepted.balanced, rules.mpr accepted.rules⟩
    exact fun empty => accepted.nonempty (List.map_eq_nil_iff.mp empty)

/-! ## Expansion -/

theorem replacement_symbol (rules : Rules) (symbol : Char) :
    (names.rules rules).replacement (names.symbol symbol) = names.word (rules.replacement symbol) := by
  have keyed (rule : Rule) : (names.rule rule).key = [names.symbol symbol] ↔ rule.key = [symbol] :=
    word_injective.eq_iff (b := [symbol])
  simp only [Rules.replacement, Renaming.rules, List.find?_map, Function.comp_def, keyed]
  cases rules.entries.find? fun rule => rule.key = [symbol] with
  | none => rfl
  | some rule => rfl

/-- The next generation of a renamed word is the renamed next generation. -/
theorem substitute_word (rules : Rules) (word : Word) :
    (names.rules rules).substitute (names.word word) = names.word (rules.substitute word) := by
  induction word with
  | nil => rfl
  | cons symbol word ih =>
    rw [word_cons, Rules.substitute_cons, Rules.substitute_cons, ih, replacement_symbol]
    exact List.map_append.symm

theorem expandFrom_word (grammar : Grammar) (limit : Option Int) (requested remaining done : Nat) (word : Word) :
    (names.grammar grammar).expandFrom limit requested remaining done (names.word word) =
      (grammar.expandFrom limit requested remaining done word).map names.word := by
  induction remaining generalizing done word with
  | zero => rfl
  | succ remaining ih =>
    have next : (names.grammar grammar).rules.substitute (names.word word) =
      names.word (grammar.rules.substitute word) := substitute_word grammar.rules word
    have counted : Grammar.exceeded? limit (names.word (grammar.rules.substitute word)) =
        Grammar.exceeded? limit (grammar.rules.substitute word) := by
      rw [Grammar.exceeded?, length_word, Grammar.exceeded?]
    simp only [Grammar.expandFrom, next, counted]
    cases Grammar.exceeded? limit (grammar.rules.substitute word) with
    | some bound => rfl
    | none => exact ih (done + 1) (grammar.rules.substitute word)

theorem expandCounted_grammar (grammar : Grammar) (iterations : Json) (limit : Option Int) :
    (names.grammar grammar).expandCounted iterations limit =
      (grammar.expandCounted iterations limit).map names.word := by
  rw [Grammar.expandCounted, Grammar.expandCounted]
  cases iterations.toIterations with
  | error fault => rfl
  | ok count => exact expandFrom_word grammar limit count count 0 grammar.start

/-! ## The turtle -/

theorem contains_renamed (listed : List Word) (symbol : Char) :
    (listed.map names.word).contains [names.symbol symbol] = listed.contains [symbol] := by
  rw [Bool.eq_iff_iff, List.contains_iff_mem, List.contains_iff_mem]
  exact List.mem_map_of_injective (a := [symbol]) word_injective

theorem command?_symbol (alphabet : Alphabet) (symbol : Char) :
    (names.alphabet alphabet).command? (names.symbol symbol) = alphabet.command? symbol := by
  simp only [Alphabet.command?, Alphabet.walks, Alphabet.draws, Renaming.alphabet, contains_renamed,
    symbol_eq_iff names.opening, symbol_eq_iff names.closing, symbol_eq_iff names.leftTurn,
    symbol_eq_iff names.rightTurn]
  rfl

/-- The turtle gets the same commands. -/
theorem commands_word (alphabet : Alphabet) (word : Word) :
    (names.alphabet alphabet).commands (names.word word) = alphabet.commands word := by
  rw [Alphabet.commands, Renaming.word, List.filterMap_map, Alphabet.commands]
  exact List.filterMap_congr fun symbol _ => command?_symbol alphabet symbol

/-- The names of symbols do not matter. A grammar under new names is accepted exactly if the old one
    is. Its words are those of the old one under the new names, and where an expansion of the one
    fails, that of the other fails with the same fault. The turtle draws the renamed words as it draws
    the old ones, or fails with the same fault. -/
theorem grammar_alike (names : Renaming) (grammar : Grammar) :
    ((names.grammar grammar).check = .ok () ↔ grammar.check = .ok ()) ∧
      (∀ iterations limit, (names.grammar grammar).expandCounted iterations limit =
        (grammar.expandCounted iterations limit).map names.word) ∧
      ∀ word angle settings, (names.word word).segments angle settings (names.grammar grammar).alphabet =
        word.segments angle settings grammar.alphabet := by
  refine ⟨?_, expandCounted_grammar grammar, fun word angle settings => ?_⟩
  · rw [Grammar.check_eq_ok, Grammar.check_eq_ok, accepted_grammar]
  · have alike : (names.grammar grammar).alphabet.commands (names.word word) = grammar.alphabet.commands word :=
      commands_word grammar.alphabet word
    rw [Word.segments, alike, Word.segments]

/-- The two symbols of the weed, each under the name of the other. -/
def exchange : Renaming := ⟨Equiv.swap 'F' 'X', by decide, by decide, by decide, by decide⟩

/-- The weed with exchanged names is accepted, its words have exchanged names, and the turtle
    draws the renamed words as it draws those of the weed. -/
theorem grammar_alike_exchanged :
    (exchange.grammar Catalog.weed).check = .ok () ∧
      (exchange.grammar Catalog.weed).expandCounted (.int 2) none =
        .ok (Word.ofText "XX[+X[+F]X[-F]+F]XX[-X[+F]X[-F]+F]+X[+F]X[-F]+F") ∧
      ∀ word angle settings,
        (exchange.word word).segments angle settings (exchange.grammar Catalog.weed).alphabet =
          word.segments angle settings Catalog.weed.alphabet := by
  obtain ⟨accepted, expanded, drawn⟩ := grammar_alike exchange Catalog.weed
  exact ⟨accepted.mpr rfl, (expanded (.int 2) none).trans rfl, drawn⟩

end Renaming

end PlantDrawing
