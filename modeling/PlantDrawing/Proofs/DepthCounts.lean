import PlantDrawing.Proofs.Layers
import PlantDrawing.Proofs.Levels
import PlantDrawing.Proofs.Limits
import PlantDrawing.Proofs.Nestings

/-!
# How many segments a drawing has at each depth

For an alphabet that spares the brackets the depths of the segments are the heights of the drawing
symbols, in order (`Walk.reads_depths`, `Word.segments_depths`). So the rules of a grammar predict
how many segments the drawing of each generation has at each depth
(`Grammar.drawing_depths_predicted`).
-/
namespace PlantDrawing

namespace Alphabet

/-- The symbols that draw. -/
def drawn (alphabet : Alphabet) : Finset Char :=
  (alphabet.draw.filterMap fun name =>
    match name with
    | [symbol] => some symbol
    | _ => none).toFinset

variable {alphabet : Alphabet} {symbol : Char} {command : Command} {height : Nat}

theorem draws_iff_mem : alphabet.draws symbol = true ↔ symbol ∈ alphabet.drawn := by
  rw [draws, List.contains_iff_mem, drawn, List.mem_toFinset, List.mem_filterMap]
  constructor
  · intro member
    exact ⟨[symbol], member, rfl⟩
  · rintro ⟨name, member, named⟩
    split at named
    · cases named
      exact member
    · cases named

theorem isPlain_of_mem (spares : alphabet.SparesBrackets) (member : symbol ∈ alphabet.drawn) : Word.IsPlain symbol := by
  have walked := walks_of_draws (draws_iff_mem.mpr member)
  constructor
  · rintro rfl
    rw [spares.1] at walked
    cases walked
  · rintro rfl
    rw [spares.2] at walked
    cases walked

theorem heightStep_eq (spares : alphabet.SparesBrackets) (height : Nat) (symbol : Char) :
    Word.heightStep height symbol = Word.heightFrom height (alphabet.unwalked [symbol]) := by
  rw [spares.heightFrom_unwalked, Word.heightFrom_cons]
  simp

end Alphabet

/-! ## Depths of segments -/

namespace Walk

variable {angle : Float} {settings : Settings} {alphabet : Alphabet} {walk next last : Walk} {command : Command}
  {symbol : Char} {word : Word}

/-- A step draws at the height of its symbol if it draws at all. -/
theorem step_depths (meaning : alphabet.command? symbol = some command)
    (step : Step angle settings.scale walk command next) (levelled : settings.Levelled (walk.pose :: walk.saved)) :
    next.drawn.map Segment.depth =
      (if alphabet.draws symbol then [(walk.saved.length : Int)] else []) ++ walk.drawn.map Segment.depth := by
  have drawing : alphabet.draws symbol = true ↔ command = .draw := by
    rw [← Alphabet.command?_eq_draw, meaning, Option.some.injEq]
  cases step with
  | draw ahead =>
    rw [if_pos (drawing.mpr rfl), List.map_cons, Pose.segmentTo, levelled.1]
    rfl
  | move | left | right | enter | leave =>
    rw [if_neg fun draws => absurd (drawing.mp draws) (by simp)]
    rfl

/-- A word draws at the heights of its drawing symbols. -/
theorem reads_depths (spares : alphabet.SparesBrackets) (reads : Reads angle settings.scale alphabet walk word last)
    (levelled : settings.Levelled (walk.pose :: walk.saved)) :
    last.drawn.map Segment.depth =
      ((Word.heightsOf alphabet.draws walk.saved.length word).map Nat.cast).reverse ++
        walk.drawn.map Segment.depth := by
  induction reads with
  | done walk => rfl
  | @skip walk last symbol word meaningless _ ih =>
    have undrawn : ¬ alphabet.draws symbol = true := by
      rw [← Alphabet.command?_eq_draw, meaningless]
      simp
    have level : Word.heightStep walk.saved.length symbol = some walk.saved.length := by
      rw [Alphabet.heightStep_eq spares, Alphabet.heightFrom_meaningless _ meaningless]
    rw [Word.heightsOf_cons level, if_neg undrawn, List.nil_append]
    exact ih levelled
  | @step walk next last symbol word command meaning first _ ih =>
    have level : Word.heightStep walk.saved.length symbol = some next.saved.length := by
      rw [Alphabet.heightStep_eq spares, Alphabet.heightFrom_unwalked _ meaning, step_height first]
    rw [ih (step_levelled first levelled), step_depths meaning first levelled, Word.heightsOf_cons level,
      List.map_append, List.reverse_append, List.append_assoc]
    split <;> rfl

end Walk

namespace Word

variable {angle : Float} {settings : Settings} {alphabet : Alphabet} {word : Word} {drawing : List Segment}

/-- The depths of a drawing are the heights of the drawing symbols, in order. -/
theorem segments_depths (spares : alphabet.SparesBrackets) (drawn : word.segments angle settings alphabet = .ok drawing) :
    drawing.map Segment.depth = (heightsOf alphabet.draws 0 word).map Nat.cast := by
  obtain ⟨-, last, reads, rfl⟩ := segments_eq_ok.mp drawn
  have depths := Walk.reads_depths spares reads (Walk.levelled_initial settings)
  rw [Walk.segments, List.map_reverse, depths]
  simp [Walk.initial]

theorem countP_depth (spares : alphabet.SparesBrackets) (drawn : word.segments angle settings alphabet = .ok drawing)
    (depth : Nat) : drawing.countP (·.depth = (depth : Int)) = (heightsOf alphabet.draws 0 word).count depth := by
  have counted : drawing.countP (·.depth = (depth : Int)) = (drawing.map Segment.depth).count (depth : Int) := by
    rw [List.count, List.countP_map]
    rfl
  rw [counted, segments_depths spares drawn, List.count_map_of_injective _ _ Nat.cast_injective]

end Word

/-- Numbers up to a bound, counted one by one. -/
theorem sum_count_range {numbers : List Nat} {most : Nat} (bounded : ∀ number ∈ numbers, number ≤ most) :
    ∑ number ∈ Finset.range (most + 1), numbers.count number = numbers.length := by
  rw [← List.sum_toFinset_count_eq_length]
  symm
  refine Finset.sum_subset ?_ fun number _ absent => ?_
  · intro number member
    exact Finset.mem_range_succ_iff.mpr (bounded number (List.mem_toFinset.mp member))
  · exact List.count_eq_zero.mpr fun member => absent (List.mem_toFinset.mpr member)

namespace Grammar

variable {grammar : Grammar} {settings : Settings} {count : Nat}

theorem count_heights_generation (accepted : grammar.Accepted) (spares : grammar.alphabet.SparesBrackets)
    (depth : Nat) :
    (Word.heightsOf grammar.alphabet.draws 0 (grammar.rules.generation count grammar.start)).count depth =
      ∑ symbol ∈ grammar.alphabet.drawn, grammar.predicted count symbol depth := by
  rw [Word.count_heightsOf_marked fun _ => Alphabet.draws_iff_mem]
  refine Finset.sum_congr rfl fun symbol member => ?_
  exact occurrences_generation accepted count (Alphabet.isPlain_of_mem spares member) depth

/-- The rules of an accepted grammar tell how many segments there are at each depth, as long as
    its turtle keeps off the brackets and every step has a place to go. At each depth there are
    as many as there are drawing symbols there, by the numbers that the rules predict for the
    generation: the layer of the depth has that many, and there is none if there are no such
    symbols. No other symbols come up than those the predictions sum over, and the numbers of all
    depths add up to the whole drawing. -/
theorem drawing_depths_predicted (count : Nat) (accepted : grammar.check = .ok ())
    (spares : grammar.alphabet.SparesBrackets) (valid : settings.check = .ok ()) :
    (∀ generation symbol, Word.IsPlain symbol → symbol ∉ grammar.symbols →
        ∀ depth, grammar.predicted generation symbol depth = 0) ∧
      ∃ word, grammar.expandCounted (.int count) none = .ok word ∧
        ((∀ cause, word.segments grammar.angle settings grammar.alphabet ≠ .error (.arithmetic cause)) →
          ∃ drawing, word.segments grammar.angle settings grammar.alphabet = .ok drawing ∧
            (∀ depth : Nat, drawing.countP (·.depth = (depth : Int)) =
              ∑ symbol ∈ grammar.alphabet.drawn, grammar.predicted count symbol depth) ∧
            (∀ (depth number : Nat), ((depth : Int), number) ∈ Layer.counts drawing ↔
              0 < number ∧ number = ∑ symbol ∈ grammar.alphabet.drawn, grammar.predicted count symbol depth) ∧
            (∀ segment ∈ drawing, 0 ≤ segment.depth) ∧
            ∃ deepest,
              (∀ depth, deepest < depth →
                ∑ symbol ∈ grammar.alphabet.drawn, grammar.predicted count symbol depth = 0) ∧
              drawing.length = ∑ depth ∈ Finset.range (deepest + 1),
                ∑ symbol ∈ grammar.alphabet.drawn, grammar.predicted count symbol depth) := by
  have conditions := check_eq_ok.mp accepted
  have numbers (depth : Nat) :
      (Word.heightsOf grammar.alphabet.draws 0 (grammar.rules.generation count grammar.start)).count depth =
        ∑ symbol ∈ grammar.alphabet.drawn, grammar.predicted count symbol depth :=
    count_heights_generation conditions spares depth
  refine ⟨fun generation symbol plain absent => predicted_of_notMem conditions generation plain absent, ?_⟩
  refine ⟨grammar.rules.generation count grammar.start, expandCounted_count.trans expand_unlimited, fun defined => ?_⟩
  have balanced : Word.balance (grammar.rules.generation count grammar.start) = some 0 :=
    (Rules.heightFrom_generation conditions.rules 0 count grammar.start).trans conditions.balanced
  obtain ⟨last, reads, -⟩ := Word.reads_of_height valid defined ((spares.heightFrom_unwalked 0 _).trans balanced)
  have drawn := Word.segments_eq_ok.mpr ⟨valid, last, reads, rfl⟩
  have depths := Word.segments_depths spares drawn
  have counted (depth : Nat) := (Word.countP_depth spares drawn depth).trans (numbers depth)
  refine ⟨last.segments, drawn, counted, fun depth number => ?_, fun segment member => ?_, ?_⟩
  · rw [Layer.mem_counts, counted]
  · have height : segment.depth ∈ last.segments.map Segment.depth := List.mem_map_of_mem member
    rw [depths] at height
    obtain ⟨level, -, same⟩ := List.mem_map.mp height
    rw [← same]
    exact Int.natCast_nonneg level
  · -- The greatest height of a drawing symbol.
    refine ⟨(Word.heightsOf grammar.alphabet.draws 0 (grammar.rules.generation count grammar.start)).toFinset.sup id,
      fun depth beyond => ?_, ?_⟩
    · rw [← numbers, List.count_eq_zero]
      intro member
      exact absurd (Finset.le_sup (f := id) (List.mem_toFinset.mpr member)) (Nat.not_le.mpr beyond)
    · simp only [← numbers]
      rw [sum_count_range fun level member => Finset.le_sup (f := id) (List.mem_toFinset.mpr member)]
      simpa using congrArg List.length depths

/-- Two generations of the weed are predicted to have six segments on the stem and four on its
    branches, and they have. -/
theorem weed_depths_predicted :
    Catalog.weed.check = .ok () ∧ Catalog.weed.alphabet.SparesBrackets ∧ Settings.check {} = .ok () ∧
      ∃ word drawing, Catalog.weed.expandCounted (.int (2 : Nat)) none = .ok word ∧
        word.segments Catalog.weed.angle {} Catalog.weed.alphabet = .ok drawing ∧
        drawing.countP (·.depth = ((0 : Nat) : Int)) = 6 ∧ drawing.countP (·.depth = ((1 : Nat) : Int)) = 4 := by
  have accepted : Catalog.weed.check = .ok () := by rfl
  have spares : Catalog.weed.alphabet.SparesBrackets := by decide
  have valid : Settings.check {} = .ok () := by rfl
  obtain ⟨-, word, expanded, draws⟩ := @drawing_depths_predicted Catalog.weed {} 2 accepted spares valid
  obtain rfl : Word.ofText "FF[+F[+X]F[-X]+X]FF[-F[+X]F[-X]+X]+F[+X]F[-X]+X" = word := Except.ok.inj expanded
  obtain ⟨drawing, drawn⟩ : ∃ drawing,
      Word.segments (Word.ofText "FF[+F[+X]F[-X]+X]FF[-F[+X]F[-X]+X]+F[+X]F[-X]+X") Catalog.weed.angle {}
        Catalog.weed.alphabet = .ok drawing := ⟨_, rfl⟩
  obtain ⟨same, drawnSame, counted, -⟩ := draws fun cause failed => by
    rw [drawn] at failed
    cases failed
  obtain rfl : same = drawing := Except.ok.inj (drawnSame.symm.trans drawn)
  have onStem : ∑ symbol ∈ Catalog.weed.alphabet.drawn, Catalog.weed.predicted 2 symbol 0 = 6 := by decide +kernel
  have onBranches : ∑ symbol ∈ Catalog.weed.alphabet.drawn, Catalog.weed.predicted 2 symbol 1 = 4 := by decide +kernel
  exact ⟨accepted, spares, valid, _, same, expanded, drawn, (counted 0).trans onStem, (counted 1).trans onBranches⟩

end Grammar

end PlantDrawing
