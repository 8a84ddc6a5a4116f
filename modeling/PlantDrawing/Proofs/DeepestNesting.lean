import Mathlib.Data.Finset.Lattice.Fold
import Mathlib.Order.Lattice.Nat
import PlantDrawing.Proofs.DepthCounts
import PlantDrawing.Proofs.Growth

/-!
# The deepest nesting

The nesting of a word is the greatest number of branches that are open at once in it. In the next
generation a symbol is replaced where it stands, so what it becomes lies within the branches around
it and adds its own: a generation nests deeper than the one before it by at most the deepest
replacement (`Rules.nesting_substitute_le`). So while words may multiply with every generation, their
nesting only grows by steps. It bounds the poses that the turtle has saved
(`Walk.length_saved_le_nesting`) and the depths of the segments (`Word.depth_le_nesting`), which gives
`Grammar.nesting_linear`.
-/
namespace PlantDrawing

namespace Word

/-- The greatest number of branches that are open at once, over all beginnings of a word. -/
def nesting (word : Word) : Nat :=
  word.inits.toFinset.sup fun front => openings front - closings front

variable {word front : Word} {marked : Char → Bool} {most height level : Nat}

theorem nesting_le_iff :
    word.nesting ≤ most ↔ ∀ front, front <+: word → openings front ≤ most + closings front := by
  simp only [nesting, Finset.sup_le_iff, List.mem_toFinset, List.mem_inits, Nat.sub_le_iff_le_add]

theorem openings_le_nesting (begins : front <+: word) : openings front ≤ word.nesting + closings front :=
  nesting_le_iff.mp (Nat.le_refl _) front begins

/-- No reading of a word comes higher than its nesting. -/
theorem height_le_nesting (reading : heightFrom 0 front = some height) (begins : front <+: word) :
    height ≤ word.nesting := by
  have counted := (heightFrom_eq_some.mp reading).2
  have bound := openings_le_nesting begins
  omega

/-- A marked symbol stands at the height that the reading has come to in front of it. -/
theorem exists_front_of_heightsOf (member : level ∈ heightsOf marked height word) :
    ∃ front, front <+: word ∧ heightFrom height front = some level := by
  induction word generalizing height with
  | nil => cases member
  | cons symbol word ih =>
    rw [heightsOf, List.mem_append] at member
    rcases member with here | later
    · refine ⟨[], List.nil_prefix, ?_⟩
      split at here
      · rw [List.mem_singleton.mp here, heightFrom_nil]
      · cases here
    · cases step : heightStep height symbol with
      | none => simp [step] at later
      | some next =>
        simp only [step] at later
        obtain ⟨front, begins, reading⟩ := ih later
        refine ⟨symbol :: front, List.cons_prefix_cons.mpr ⟨rfl, begins⟩, ?_⟩
        rw [heightFrom_cons, step]
        exact reading

end Word

/-! ## Generations -/

namespace Rules

/-- The nesting of the deepest replacement, and zero if there are no rules. -/
def nesting (rules : Rules) : Nat :=
  rules.entries.toFinset.sup fun rule => rule.replacement.nesting

variable {rules : Rules} {word : Word} {most height last : Nat}

theorem nesting_replacement_le {rule : Rule} (member : rule ∈ rules.entries) :
    rule.replacement.nesting ≤ rules.nesting :=
  Finset.le_sup (f := fun rule : Rule => rule.replacement.nesting) (List.mem_toFinset.mpr member)

/-- Up to any place in the next generation no more branches are open than up to the symbol that the
    place comes from, and those of its replacement. -/
theorem openings_substitute_le (sound : ∀ rule ∈ rules.entries, rule.Sound)
    (reading : Word.heightFrom height word = some last)
    (bounded : ∀ front : Word, front <+: word → height + front.openings ≤ most + front.closings) {front : Word}
    (begins : front <+: rules.substitute word) :
    height + front.openings ≤ most + rules.nesting + front.closings := by
  induction word generalizing height front with
  | nil =>
    obtain rfl := List.prefix_nil.mp begins
    have start := bounded [] (List.prefix_refl [])
    omega
  | cons symbol word ih =>
    rw [Word.heightFrom_cons, Option.bind_eq_some_iff] at reading
    obtain ⟨next, step, rest⟩ := reading
    have start := bounded [] List.nil_prefix
    rw [Word.openings_nil, Word.closings_nil] at start
    rw [substitute_cons] at begins
    rcases List.prefix_or_prefix_of_prefix begins (List.prefix_append _ _) with within | ⟨tail, rfl⟩
    · -- The place lies in what the first symbol becomes.
      rcases rules.replacement_cases symbol with kept | ⟨rule, member, -, replaced⟩
      · rw [kept] at within
        have bound := bounded front (within.trans (List.prefix_append [symbol] word))
        omega
      · have deepest := nesting_replacement_le member
        have bound := Word.openings_le_nesting (replaced ▸ within)
        omega
    · -- It lies behind that, where the height is as behind the symbol.
      have afterSymbol := Word.heightStep_eq_some.mp step
      have afterReplacement := (Word.heightFrom_eq_some.mp ((heightFrom_replacement sound height symbol).trans step)).2
      have onward : ∀ front : Word, front <+: word → next + front.openings ≤ most + front.closings := by
        intro front begins
        have longer := bounded (symbol :: front) (List.cons_prefix_cons.mpr ⟨rfl, begins⟩)
        rw [Word.openings_cons, Word.closings_cons] at longer
        omega
      have bound := ih rest onward ((List.prefix_append_right_inj _).mp begins)
      rw [Word.openings_append, Word.closings_append]
      omega

theorem nesting_substitute_le (sound : ∀ rule ∈ rules.entries, rule.Sound) (balanced : word.Balanced) :
    (rules.substitute word).nesting ≤ word.nesting + rules.nesting := by
  refine Word.nesting_le_iff.mpr fun front begins => ?_
  have bounded : ∀ front : Word, front <+: word → 0 + front.openings ≤ word.nesting + front.closings := by
    intro front begins
    rw [Nat.zero_add]
    exact Word.openings_le_nesting begins
  have bound := openings_substitute_le sound balanced bounded begins
  omega

/-- Nesting grows by at most the same step with every generation. -/
theorem nesting_generation_le (sound : ∀ rule ∈ rules.entries, rule.Sound) (balanced : word.Balanced) (count : Nat) :
    (rules.generation count word).nesting ≤ word.nesting + count * rules.nesting := by
  induction count with
  | zero => simp [generation]
  | succ count ih =>
    have level : (rules.generation count word).Balanced := (heightFrom_generation sound 0 count word).trans balanced
    rw [generation_succ]
    calc (rules.substitute (rules.generation count word)).nesting
        ≤ (rules.generation count word).nesting + rules.nesting := nesting_substitute_le sound level
      _ ≤ word.nesting + count * rules.nesting + rules.nesting := Nat.add_le_add_right ih _
      _ = word.nesting + (count + 1) * rules.nesting := by rw [Nat.succ_mul, Nat.add_assoc]

end Rules

/-! ## The turtle -/

/-- The turtle has saved no more poses than the brackets of its word nest. -/
theorem Walk.length_saved_le_nesting {angle scale : Float} {alphabet : Alphabet} {settings : Settings} {walk : Walk}
    {word front : Word} (spares : alphabet.SparesBrackets)
    (reads : Walk.Reads angle scale alphabet (.initial settings) front walk) (begins : front <+: word) :
    walk.saved.length ≤ word.nesting :=
  Word.height_le_nesting ((spares.heightFrom_unwalked 0 front).symm.trans (Walk.reads_height reads)) begins

theorem Word.depth_le_nesting {angle : Float} {settings : Settings} {alphabet : Alphabet} {word : Word}
    {drawing : List Segment} {segment : Segment} (spares : alphabet.SparesBrackets)
    (drawn : word.segments angle settings alphabet = .ok drawing) (member : segment ∈ drawing) :
    segment.depth ≤ word.nesting := by
  have height : segment.depth ∈ drawing.map Segment.depth := List.mem_map_of_mem member
  rw [Word.segments_depths spares drawn] at height
  obtain ⟨level, found, same⟩ := List.mem_map.mp height
  obtain ⟨front, begins, reading⟩ := Word.exists_front_of_heightsOf found
  rw [← same]
  exact Int.ofNat_le.mpr (Word.height_le_nesting reading begins)

namespace Grammar

/-- The nesting of an accepted grammar's words grows by at most the deepest replacement with every
    generation. For an alphabet that spares the brackets it bounds the poses that the turtle has saved
    after any beginning of the word, and the depths of all segments. The words themselves can grow by a
    factor: they have at least as many symbols as a symbol comes to that brings itself back several
    times. -/
theorem nesting_linear {grammar : Grammar} (accepted : grammar.check = .ok ()) (count : Nat) :
    ∃ word, grammar.expandCounted (.int count) none = .ok word ∧
      word.nesting ≤ grammar.start.nesting + count * grammar.rules.nesting ∧
      (∀ angle settings alphabet, alphabet.SparesBrackets →
        (∀ front walk, front <+: word →
          (Walk.initial settings).run angle settings.scale (alphabet.commands front) = .ok walk →
          walk.saved.length ≤ grammar.start.nesting + count * grammar.rules.nesting) ∧
        ∀ drawing, word.segments angle settings alphabet = .ok drawing → ∀ segment ∈ drawing,
          segment.depth ≤ ((grammar.start.nesting + count * grammar.rules.nesting : Nat) : Int)) ∧
      ∀ symbol times, times ≤ (grammar.rules.replacement symbol).count symbol →
        times ^ count * grammar.start.count symbol ≤ word.length := by
  have conditions := check_eq_ok.mp accepted
  have bound := Rules.nesting_generation_le conditions.rules conditions.balanced count
  refine ⟨grammar.rules.generation count grammar.start, expandCounted_count.trans expand_unlimited, bound, ?_, ?_⟩
  · intro angle settings alphabet spares
    constructor
    · intro front walk begins ran
      exact (Walk.length_saved_le_nesting spares (Walk.run_eq_ok.mp ran) begins).trans bound
    · intro drawing drawn segment member
      exact (Word.depth_le_nesting spares drawn member).trans (Int.ofNat_le.mpr bound)
  · intro symbol times several
    exact (Rules.pow_le_count_generation several count grammar.start).trans List.count_le_length

/-- Two generations of the weed nest two branches, as deep as they can, and hold the symbol that
    triples nine times. -/
theorem weed_nesting :
    Catalog.weed.check = .ok () ∧ Alphabet.SparesBrackets {} ∧
      3 ≤ (Catalog.weed.rules.replacement 'X').count 'X' ∧
      ∃ word walk drawing, Catalog.weed.expandCounted (.int (2 : Nat)) none = .ok word ∧ word.nesting ≤ 0 + 2 * 1 ∧
        Word.ofText "FF[+F[+X" <+: word ∧
        (Walk.initial {}).run 20 1 (Alphabet.commands {} (Word.ofText "FF[+F[+X")) = .ok walk ∧
        walk.saved.length ≤ 0 + 2 * 1 ∧ word.segments 20 {} {} = .ok drawing ∧
        (∀ segment ∈ drawing, segment.depth ≤ ((0 + 2 * 1 : Nat) : Int)) ∧ 3 ^ 2 * 1 ≤ word.length := by
  have accepted : Catalog.weed.check = .ok () := by rfl
  have spares : Alphabet.SparesBrackets {} := by decide
  have triples : 3 ≤ (Catalog.weed.rules.replacement 'X').count 'X' := by decide
  have flat : Catalog.weed.start.nesting = 0 := by decide
  have step : Catalog.weed.rules.nesting = 1 := by decide
  obtain ⟨word, expanded, nested, turtle, multiplied⟩ := nesting_linear accepted 2
  rw [flat, step] at nested turtle
  obtain ⟨saved, deep⟩ := turtle 20 {} {} spares
  obtain rfl : Word.ofText "FF[+F[+X]F[-X]+X]FF[-F[+X]F[-X]+X]+F[+X]F[-X]+X" = word := Except.ok.inj expanded
  have begins : Word.ofText "FF[+F[+X" <+: Word.ofText "FF[+F[+X]F[-X]+X]FF[-F[+X]F[-X]+X]+F[+X]F[-X]+X" := by decide
  obtain ⟨walk, ran⟩ : ∃ walk,
      (Walk.initial {}).run 20 1 (Alphabet.commands {} (Word.ofText "FF[+F[+X")) = .ok walk := ⟨_, rfl⟩
  obtain ⟨drawing, drawn⟩ : ∃ drawing,
      Word.segments (Word.ofText "FF[+F[+X]F[-X]+X]FF[-F[+X]F[-X]+X]+F[+X]F[-X]+X") 20 {} {} = .ok drawing := ⟨_, rfl⟩
  exact ⟨accepted, spares, triples, _, walk, drawing, expanded, nested, begins, ran, saved _ walk begins ran, drawn,
    deep drawing drawn, multiplied 'X' 3 triples⟩

end Grammar

end PlantDrawing
