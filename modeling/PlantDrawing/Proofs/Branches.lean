import PlantDrawing.Proofs.TurtleBrackets

/-!
# Branches

A branch is a detour. What a word draws does not depend on what was drawn before
(`Walk.reads_redrawn`) nor, if its reading does not break off, on the poses saved
below it (`Walk.reads_above`, `Walk.reads_of_above`). So a balanced word between
brackets draws as it would from the pose at the start of the branch and puts the
turtle back there (`Walk.reads_enclosed`), and a branch can be taken out of a word
without a change to the rest (`Word.branch_is_detour`).
-/
namespace PlantDrawing

/-- A word as a branch. -/
def Word.enclosed (word : Word) : Word := opening :: word ++ [closing]

namespace Walk

variable {angle scale : Float} {alphabet : Alphabet} {walk next last : Walk} {command : Command}
  {word : Word}

/-! ## What was drawn before -/

theorem step_redrawn (step : Step angle scale walk command next) :
    ∃ added, next.drawn = added ++ walk.drawn ∧
      ∀ before, Step angle scale { walk with drawn := before } command
        { next with drawn := added ++ before } := by
  cases step with
  | @draw pose ahead => exact ⟨[walk.pose.segmentTo pose], rfl, fun _ => .draw ahead⟩
  | move ahead => exact ⟨[], rfl, fun _ => .move ahead⟩
  | left => exact ⟨[], rfl, fun _ => .left⟩
  | right => exact ⟨[], rfl, fun _ => .right⟩
  | enter => exact ⟨[], rfl, fun _ => .enter⟩
  | leave inside => exact ⟨[], rfl, fun _ => .leave inside⟩

/-- A word adds the same segments whatever was drawn before it. -/
theorem reads_redrawn (reads : Reads angle scale alphabet walk word last) :
    ∃ added, last.drawn = added ++ walk.drawn ∧
      ∀ before, Reads angle scale alphabet { walk with drawn := before } word
        { last with drawn := added ++ before } := by
  induction reads with
  | done walk => exact ⟨[], rfl, fun _ => .done _⟩
  | skip meaningless _ ih =>
    obtain ⟨added, drawn, again⟩ := ih
    exact ⟨added, drawn, fun before => .skip meaningless (again before)⟩
  | step meaning first _ ih =>
    obtain ⟨late, drawnLate, again⟩ := ih
    obtain ⟨early, drawnEarly, firstAgain⟩ := step_redrawn first
    refine ⟨late ++ early, by rw [drawnLate, drawnEarly, List.append_assoc], fun before => ?_⟩
    rw [List.append_assoc]
    exact .step meaning (firstAgain before) (again (early ++ before))

/-! ## What is saved below -/

/-- The walk with more poses saved below its own. -/
def above (walk : Walk) (below : List Pose) : Walk := { walk with saved := walk.saved ++ below }

theorem step_above (step : Step angle scale walk command next) (below : List Pose) :
    Step angle scale (walk.above below) command (next.above below) := by
  cases step with
  | draw ahead => exact .draw ahead
  | move ahead => exact .move ahead
  | left => exact .left
  | right => exact .right
  | enter => exact .enter
  | leave inside =>
    refine .leave ?_
    rw [above, inside]
    rfl

theorem step_of_above {below : List Pose} {height : Nat}
    (step : Step angle scale (walk.above below) command last)
    (level : Word.heightFrom walk.saved.length command.bracket = some height) :
    ∃ next, Step angle scale walk command next ∧ last = next.above below := by
  cases step with
  | draw ahead => exact ⟨_, .draw ahead, rfl⟩
  | move ahead => exact ⟨_, .move ahead, rfl⟩
  | left => exact ⟨_, .left, rfl⟩
  | right => exact ⟨_, .right, rfl⟩
  | enter => exact ⟨_, .enter, rfl⟩
  | leave inside =>
    cases saved : walk.saved with
    | nil =>
      rw [saved] at level
      cases level
    | cons pose rest =>
      simp only [above, saved, List.cons_append, List.cons.injEq] at inside
      obtain ⟨rfl, rfl⟩ := inside
      exact ⟨_, .leave saved, rfl⟩

theorem reads_above (reads : Reads angle scale alphabet walk word last) (below : List Pose) :
    Reads angle scale alphabet (walk.above below) word (last.above below) := by
  induction reads with
  | done walk => exact .done _
  | skip meaningless _ ih => exact .skip meaningless ih
  | step meaning first _ ih => exact .step meaning (step_above first below) ih

/-- A word whose reading does not break off leaves alone what is saved below. -/
theorem reads_of_above {below : List Pose} {height : Nat}
    (reads : Reads angle scale alphabet (walk.above below) word last)
    (level : Word.heightFrom walk.saved.length (alphabet.unwalked word) = some height) :
    ∃ next, Reads angle scale alphabet walk word next ∧ last = next.above below := by
  -- The induction is on the lifted walk, so what it is lifted from stays open.
  generalize start : walk.above below = lifted at reads
  induction reads generalizing walk with
  | done lifted => exact ⟨walk, .done walk, start.symm⟩
  | skip meaningless _ ih =>
    rw [Alphabet.unwalked_cons, Word.heightFrom_append,
      Alphabet.heightFrom_meaningless _ meaningless] at level
    obtain ⟨next, reads, same⟩ := ih level start
    exact ⟨next, .skip meaningless reads, same⟩
  | step meaning first _ ih =>
    subst start
    rw [Alphabet.unwalked_cons, Word.heightFrom_append, Alphabet.heightFrom_unwalked _ meaning,
      Option.bind_eq_some_iff] at level
    obtain ⟨middle, head, tail⟩ := level
    obtain ⟨next, step, rfl⟩ := step_of_above first head
    rw [step_height step, Option.some.injEq] at head
    obtain ⟨last, reads, same⟩ := ih (head ▸ tail) rfl
    exact ⟨last, .step meaning step reads, same⟩

/-! ## Detours -/

/-- The walk that has just entered a branch, with nothing saved below it. -/
def entering (scale : Float) (walk : Walk) : Walk := ⟨walk.pose.deeper scale, [], []⟩

/-- A branch draws what its word draws from the start of the branch, and puts the
    turtle back where it was. -/
theorem reads_enclosed (closed : word.Balanced) (spares : alphabet.SparesBrackets) :
    Reads angle scale alphabet walk word.enclosed last ↔
      ∃ inside, Reads angle scale alphabet (walk.entering scale) word inside ∧
        last = { walk with drawn := inside.drawn ++ walk.drawn } := by
  have opens := Alphabet.command?_opening spares.1
  have closes := Alphabet.command?_closing spares.2
  have level : Word.heightFrom (walk.entering scale).saved.length (alphabet.unwalked word) = some 0 :=
    (spares.heightFrom_unwalked 0 word).trans closed
  rw [Word.enclosed, List.cons_append, reads_cons opens]
  constructor
  · rintro ⟨first, opened, rest⟩
    cases opened with
    | enter =>
      obtain ⟨middle, within, closed⟩ := reads_append.mp rest
      -- The walk inside the branch, lifted off what is saved and drawn outside it.
      have lifted : Reads angle scale alphabet
          (Walk.above ⟨walk.pose.deeper scale, [], walk.drawn⟩ (walk.pose :: walk.saved)) word middle := within
      obtain ⟨bare, reads, rfl⟩ := reads_of_above lifted level
      have outside : bare.saved = [] :=
        List.eq_nil_of_length_eq_zero (Option.some.inj ((reads_height reads).symm.trans level))
      obtain ⟨added, drawn, again⟩ := reads_redrawn reads
      refine ⟨⟨bare.pose, bare.saved, added ++ []⟩, again [], ?_⟩
      cases (reads_symbol closes).mp closed with
      | leave inside =>
        simp only [above, outside, List.nil_append, List.cons.injEq] at inside
        obtain ⟨rfl, rfl⟩ := inside
        simp only [above, drawn, List.append_nil]
  · rintro ⟨inside, reads, rfl⟩
    have outside : inside.saved = [] :=
      List.eq_nil_of_length_eq_zero (Option.some.inj ((reads_height reads).symm.trans level))
    obtain ⟨added, drawn, again⟩ := reads_redrawn reads
    simp only [entering, List.append_nil] at drawn
    have lifted := reads_above (again walk.drawn) (walk.pose :: walk.saved)
    refine ⟨_, .enter, reads_append.mpr ⟨_, lifted, (reads_symbol closes).mpr ?_⟩⟩
    rw [drawn]
    refine .leave ?_
    simp only [above, outside, List.nil_append]

/-- The walk along a word with a branch in it: along the front, into the branch
    and back, and on along the rest as if there were no branch. -/
theorem reads_detour {front branch rest : Word} (closed : branch.Balanced)
    (spares : alphabet.SparesBrackets) :
    Reads angle scale alphabet walk (front ++ branch.enclosed ++ rest) last ↔
      ∃ middle inside after added, Reads angle scale alphabet walk front middle ∧
        Reads angle scale alphabet (middle.entering scale) branch inside ∧
        Reads angle scale alphabet middle rest after ∧ after.drawn = added ++ middle.drawn ∧
        last = { after with drawn := added ++ (inside.drawn ++ middle.drawn) } := by
  constructor
  · intro reads
    obtain ⟨back, there, onward⟩ := reads_append.mp reads
    obtain ⟨middle, walked, branched⟩ := reads_append.mp there
    obtain ⟨inside, within, rfl⟩ := (reads_enclosed closed spares).mp branched
    obtain ⟨added, drawn, again⟩ := reads_redrawn onward
    refine ⟨middle, inside, _, added, walked, within, again middle.drawn, rfl, ?_⟩
    simp only [← drawn]
  · rintro ⟨middle, inside, after, added, walked, within, onward, drawn, rfl⟩
    obtain ⟨same, redrawn, again⟩ := reads_redrawn onward
    have alike : same = added := List.append_cancel_right (redrawn.symm.trans drawn)
    subst alike
    exact reads_append.mpr ⟨_, reads_append.mpr ⟨middle, walked,
      (reads_enclosed closed spares).mpr ⟨inside, within, rfl⟩⟩, again _⟩

end Walk

namespace Word

/-- A branch that is closed can be taken out of a word without a change to the
    rest: the word draws with the branch exactly if it draws up to the end of
    the branch and draws without it, and then the segments of the branch stand
    between those before and those after it. -/
theorem branch_is_detour (before branch after : Word) (angle : Float) (settings : Settings)
    (alphabet : Alphabet) (closed : branch.Balanced) (spares : alphabet.SparesBrackets) :
    ((∃ drawing, segments (before ++ branch.enclosed ++ after) angle settings alphabet = .ok drawing) ↔
        (∃ drawing, segments (before ++ branch.enclosed) angle settings alphabet = .ok drawing) ∧
          ∃ drawing, segments (before ++ after) angle settings alphabet = .ok drawing) ∧
      ∀ drawing, segments (before ++ branch.enclosed ++ after) angle settings alphabet = .ok drawing →
        ∃ stem twig rest, before.segments angle settings alphabet = .ok stem ∧
          segments (before ++ branch.enclosed) angle settings alphabet = .ok (stem ++ twig) ∧
          segments (before ++ after) angle settings alphabet = .ok (stem ++ rest) ∧
          drawing = stem ++ twig ++ rest := by
  have parts : ∀ drawing,
      segments (before ++ branch.enclosed ++ after) angle settings alphabet = .ok drawing →
        ∃ stem twig rest, before.segments angle settings alphabet = .ok stem ∧
          segments (before ++ branch.enclosed) angle settings alphabet = .ok (stem ++ twig) ∧
          segments (before ++ after) angle settings alphabet = .ok (stem ++ rest) ∧
          drawing = stem ++ twig ++ rest := by
    intro drawing drawn
    obtain ⟨valid, last, reads, rfl⟩ := segments_eq_ok.mp drawn
    obtain ⟨middle, inside, final, added, walked, within, onward, late, rfl⟩ :=
      (Walk.reads_detour closed spares).mp reads
    refine ⟨middle.segments, inside.segments, added.reverse,
      segments_eq_ok.mpr ⟨valid, middle, walked, rfl⟩, segments_eq_ok.mpr ⟨valid, _,
        Walk.reads_append.mpr ⟨middle, walked, (Walk.reads_enclosed closed spares).mpr ⟨inside, within, rfl⟩⟩,
        List.reverse_append⟩,
      segments_eq_ok.mpr ⟨valid, final, Walk.reads_append.mpr ⟨middle, walked, onward⟩, ?_⟩, ?_⟩
    · rw [Walk.segments, late, List.reverse_append, Walk.segments]
    · simp only [Walk.segments, List.reverse_append, List.append_assoc]
  refine ⟨⟨?_, ?_⟩, parts⟩
  · rintro ⟨drawing, drawn⟩
    obtain ⟨stem, twig, rest, -, withBranch, withoutBranch, -⟩ := parts drawing drawn
    exact ⟨⟨stem ++ twig, withBranch⟩, stem ++ rest, withoutBranch⟩
  · rintro ⟨⟨first, drawnFirst⟩, second, drawnSecond⟩
    obtain ⟨valid, back, there, -⟩ := segments_eq_ok.mp drawnFirst
    obtain ⟨-, final, whole, -⟩ := segments_eq_ok.mp drawnSecond
    obtain ⟨middle, walked, branched⟩ := Walk.reads_append.mp there
    obtain ⟨other, walkedAgain, onward⟩ := Walk.reads_append.mp whole
    obtain rfl := Walk.reads_deterministic walked walkedAgain
    obtain ⟨inside, within, -⟩ := (Walk.reads_enclosed closed spares).mp branched
    obtain ⟨added, late, -⟩ := Walk.reads_redrawn onward
    exact ⟨_, segments_eq_ok.mpr ⟨valid, _, (Walk.reads_detour closed spares).mpr
      ⟨middle, inside, final, added, walked, within, onward, late, rfl⟩, rfl⟩⟩

/-- A stem with a twig that has a twig of its own. -/
theorem twig_is_detour :
    Balanced (ofText "+F[-F]f") ∧ Alphabet.SparesBrackets {} ∧
      ∃ drawing stem twig rest,
        segments (ofText "[F" ++ enclosed (ofText "+F[-F]f") ++ ofText "-F]F") 25 {} {} = .ok drawing ∧
        segments (ofText "[F") 25 {} {} = .ok stem ∧
        segments (ofText "[F" ++ enclosed (ofText "+F[-F]f")) 25 {} {} = .ok (stem ++ twig) ∧
        segments (ofText "[F" ++ ofText "-F]F") 25 {} {} = .ok (stem ++ rest) ∧
        drawing = stem ++ twig ++ rest := by
  have closed : Balanced (ofText "+F[-F]f") := by decide
  have spares : Alphabet.SparesBrackets {} := by decide
  obtain ⟨drawing, drawn⟩ : ∃ drawing,
      segments (ofText "[F" ++ enclosed (ofText "+F[-F]f") ++ ofText "-F]F") 25 {} {} = .ok drawing := ⟨_, rfl⟩
  obtain ⟨stem, twig, rest, parts⟩ :=
    (branch_is_detour (ofText "[F") (ofText "+F[-F]f") (ofText "-F]F") 25 {} {} closed spares).2
      drawing drawn
  exact ⟨closed, spares, drawing, stem, twig, rest, drawn, parts⟩

end Word

end PlantDrawing
