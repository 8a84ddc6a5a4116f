import PlantDrawing.Proofs.Branches

/-!
# Levels of branches

The poses of a walk stand one on the other: the turtle's own on top, below it
those saved by the branches around it, down to the stem. Each has the depth of
its level and the length of a step there (`Settings.Levelled`). Every command
keeps the levels apart (`Walk.step_levelled`), so no run of pushes, pops and moves
lets depth and step length drift from each other, and a segment belongs to the
level that the brackets in front of its symbol give it
(`Word.segments_on_their_levels`).
-/
namespace PlantDrawing

namespace Settings

/-- The length of a step at a depth: scaled once for each branch entered. -/
def stepAt (settings : Settings) : Nat → Float
  | 0 => settings.step
  | depth + 1 => settings.stepAt depth * settings.scale

/-- Poses from the innermost branch to the stem, each with the depth of its level
    and the step of that depth. -/
def Levelled (settings : Settings) : List Pose → Prop
  | [] => True
  | pose :: below =>
    pose.depth = below.length ∧ pose.step = settings.stepAt below.length ∧ settings.Levelled below

variable {settings : Settings} {poses : List Pose} {pose : Pose}

/-- Counted from the stem, the level of a pose is its depth. -/
theorem Levelled.at_index (levelled : settings.Levelled poses) {index : Nat}
    (found : poses.reverse[index]? = some pose) :
    pose.depth = index ∧ pose.step = settings.stepAt index := by
  induction poses with
  | nil => simp at found
  | cons top below ih =>
    obtain ⟨depth, step, rest⟩ := levelled
    rw [List.reverse_cons] at found
    rcases Nat.lt_trichotomy index below.length with lower | same | beyond
    · rw [List.getElem?_append_left (by simpa using lower)] at found
      exact ih rest found
    · subst same
      rw [List.getElem?_append_right (by simp)] at found
      simp only [List.length_reverse, Nat.sub_self, List.getElem?_cons_zero, Option.some.injEq] at found
      subst found
      exact ⟨depth, step⟩
    · have outside : (below.reverse ++ [top]).length ≤ index := by
        simp only [List.length_append, List.length_reverse, List.length_singleton]
        omega
      rw [List.getElem?_eq_none outside] at found
      cases found

theorem Levelled.step_of_mem (levelled : settings.Levelled poses) (member : pose ∈ poses) :
    pose.step = settings.stepAt pose.depth := by
  obtain ⟨index, found⟩ := List.getElem?_of_mem (List.mem_reverse.mpr member)
  obtain ⟨depth, step⟩ := levelled.at_index found
  rw [depth, step]

end Settings

/-- One step ahead goes by the cosine and the sine of the heading and leaves all
    but the place alone. -/
theorem Pose.forward_eq_ok {pose next : Pose} :
    pose.forward = .ok next ↔
      ∃ cosine sine, Double.cosine (Double.radians pose.heading) = .ok cosine ∧
        Double.sine (Double.radians pose.heading) = .ok sine ∧
        next = { pose with x := pose.x + pose.step * cosine, y := pose.y + pose.step * sine } := by
  unfold forward
  constructor
  · intro ahead
    obtain ⟨cosine, hasCosine, rest⟩ := Outcome.bind_eq_ok.mp ahead
    obtain ⟨sine, hasSine, made⟩ := Outcome.bind_eq_ok.mp rest
    exact ⟨cosine, sine, hasCosine, hasSine, (Except.ok.inj made).symm⟩
  · rintro ⟨cosine, sine, hasCosine, hasSine, rfl⟩
    exact Outcome.bind_eq_ok.mpr ⟨cosine, hasCosine, Outcome.bind_eq_ok.mpr ⟨sine, hasSine, rfl⟩⟩

namespace Walk

variable {angle : Float} {settings : Settings} {alphabet : Alphabet} {walk next last : Walk}
  {command : Command} {word : Word}

/-! ## Every command keeps the levels -/

theorem step_levelled (step : Step angle settings.scale walk command next)
    (levelled : settings.Levelled (walk.pose :: walk.saved)) :
    settings.Levelled (next.pose :: next.saved) := by
  have kept : ∀ ahead, walk.pose.forward = .ok ahead → settings.Levelled (ahead :: walk.saved) := by
    intro ahead forward
    obtain ⟨cosine, sine, -, -, rfl⟩ := Pose.forward_eq_ok.mp forward
    exact levelled
  cases step with
  | draw ahead => exact kept _ ahead
  | move ahead => exact kept _ ahead
  | left => exact levelled
  | right => exact levelled
  | enter =>
    refine ⟨?_, ?_, levelled⟩
    · simp [Pose.deeper, levelled.1]
    · simp [Pose.deeper, levelled.2.1, Settings.stepAt]
  | leave inside =>
    rw [inside] at levelled
    exact levelled.2.2

theorem reads_levelled (reads : Reads angle settings.scale alphabet walk word last)
    (levelled : settings.Levelled (walk.pose :: walk.saved)) :
    settings.Levelled (last.pose :: last.saved) := by
  induction reads with
  | done walk => exact levelled
  | skip _ _ ih => exact ih levelled
  | step _ first _ ih => exact ih (step_levelled first levelled)

theorem levelled_initial (settings : Settings) :
    settings.Levelled ((initial settings).pose :: (initial settings).saved) :=
  ⟨rfl, rfl, trivial⟩

/-! ## Segments -/

/-- The segment of a drawing symbol stands behind those of the drawing symbols in
    front of it, and goes one step ahead of the pose at which the symbol is met. -/
theorem reads_segment {symbol : Char} {before after : Word}
    (reads : Reads angle settings.scale alphabet (initial settings) (before ++ symbol :: after) last)
    (draws : alphabet.draws symbol = true) :
    ∃ start ahead, Reads angle settings.scale alphabet (initial settings) before start ∧
      start.pose.forward = .ok ahead ∧
      last.segments[before.countP alphabet.draws]? = some (start.pose.segmentTo ahead) := by
  obtain ⟨start, front, rest⟩ := reads_append.mp reads
  obtain ⟨next, step, onward⟩ := (reads_cons (Alphabet.command?_eq_draw.mpr draws)).mp rest
  obtain ⟨late, drawn, -⟩ := reads_redrawn onward
  have counted : start.drawn.length = before.countP alphabet.draws := by
    simpa [initial] using reads_drawn_length front
  cases step with
  | @draw ahead forward =>
    refine ⟨start, ahead, front, forward, ?_⟩
    have order : last.segments = start.drawn.reverse ++ start.pose.segmentTo ahead :: late.reverse := by
      simp [segments, drawn]
    rw [order, ← counted, List.getElem?_append_right (by simp)]
    simp

end Walk

namespace Word

/-- After every front of a word that the turtle has walked, its depth is the
    number of poses saved, the poses saved have the depths from zero upwards, and
    every pose has the step of its depth. A drawing has one segment for each
    drawing symbol, in their order. The depth of a segment is the number of
    branches that are open in front of its symbol, and its end lies one step of
    that depth ahead of its start. -/
theorem segments_on_their_levels (word : Word) (angle : Float) (settings : Settings)
    (alphabet : Alphabet) :
    (∀ front walk, front <+: word →
        (Walk.initial settings).run angle settings.scale (alphabet.commands front) = .ok walk →
        walk.pose.depth = walk.saved.length ∧
          (∀ index (pose : Pose), walk.saved.reverse[index]? = some pose → pose.depth = index) ∧
          (∀ pose ∈ walk.pose :: walk.saved, pose.step = settings.stepAt pose.depth) ∧
          walk.segments.length = front.countP alphabet.draws) ∧
      ∀ drawing, word.segments angle settings alphabet = .ok drawing →
        drawing.length = word.countP alphabet.draws ∧
          ∀ (before : Word) (symbol : Char) (after : Word), word = before ++ symbol :: after →
            alphabet.draws symbol = true →
            ∃ start segment cosine sine,
              (Walk.initial settings).run angle settings.scale (alphabet.commands before) = .ok start ∧
              drawing[before.countP alphabet.draws]? = some segment ∧
              segment.depth = (openings (alphabet.unwalked before) : Int) -
                closings (alphabet.unwalked before) ∧
              0 ≤ segment.depth ∧
              Double.cosine (Double.radians start.pose.heading) = .ok cosine ∧
              Double.sine (Double.radians start.pose.heading) = .ok sine ∧
              segment.x1 = start.pose.x ∧ segment.y1 = start.pose.y ∧
              segment.x2 = segment.x1 + settings.stepAt segment.depth.toNat * cosine ∧
              segment.y2 = segment.y1 + settings.stepAt segment.depth.toNat * sine := by
  constructor
  · intro front walk _ ran
    have reads := Walk.run_eq_ok.mp ran
    have levelled := Walk.reads_levelled reads (Walk.levelled_initial settings)
    refine ⟨levelled.1, ?_, fun pose member => levelled.step_of_mem member, ?_⟩
    · intro index pose found
      exact (levelled.2.2.at_index found).1
    · simpa [Walk.segments, Walk.initial] using Walk.reads_drawn_length reads
  · intro drawing drawn
    obtain ⟨-, last, reads, rfl⟩ := segments_eq_ok.mp drawn
    constructor
    · simpa [Walk.segments, Walk.initial] using Walk.reads_drawn_length reads
    · rintro before symbol after rfl draws
      obtain ⟨start, ahead, front, forward, found⟩ := Walk.reads_segment reads draws
      obtain ⟨cosine, sine, hasCosine, hasSine, rfl⟩ := Pose.forward_eq_ok.mp forward
      obtain ⟨depth, step, -⟩ := Walk.reads_levelled front (Walk.levelled_initial settings)
      have level : start.pose.depth + closings (alphabet.unwalked before) =
          openings (alphabet.unwalked before) := by
        rw [depth]
        simpa [Walk.initial] using (heightFrom_eq_some.mp (Walk.reads_height front)).2
      refine ⟨start, _, cosine, sine, Walk.run_eq_ok.mpr front, found, ?_, ?_, hasCosine, hasSine,
        rfl, rfl, ?_, ?_⟩
      · simp only [Pose.segmentTo]
        omega
      · simp only [Pose.segmentTo]
        omega
      · simp [Pose.segmentTo, step, depth]
      · simp [Pose.segmentTo, step, depth]

/-- A stem with a branch that has a branch of its own, and with one that is left
    open: the third segment is drawn two levels up. -/
theorem third_segment_two_levels_up :
    ∃ walk drawing start segment cosine sine,
      (Walk.initial ⟨8, 0.5, 1⟩).run 25 0.5 (Alphabet.commands {} (ofText "F[+F[-")) = .ok walk ∧
      walk.pose.depth = walk.saved.length ∧
      (∀ index (pose : Pose), walk.saved.reverse[index]? = some pose → pose.depth = index) ∧
      (∀ pose ∈ walk.pose :: walk.saved, pose.step = Settings.stepAt ⟨8, 0.5, 1⟩ pose.depth) ∧
      segments (ofText "F[+F[-F]f]F[") 25 ⟨8, 0.5, 1⟩ {} = .ok drawing ∧
      (Walk.initial ⟨8, 0.5, 1⟩).run 25 0.5 (Alphabet.commands {} (ofText "F[+F[-")) = .ok start ∧
      drawing[2]? = some segment ∧ segment.depth = 2 ∧
      Double.cosine (Double.radians start.pose.heading) = .ok cosine ∧
      Double.sine (Double.radians start.pose.heading) = .ok sine ∧
      segment.x2 = segment.x1 + Settings.stepAt ⟨8, 0.5, 1⟩ segment.depth.toNat * cosine ∧
      segment.y2 = segment.y1 + Settings.stepAt ⟨8, 0.5, 1⟩ segment.depth.toNat * sine := by
  obtain ⟨onFronts, onDrawings⟩ := segments_on_their_levels (ofText "F[+F[-F]f]F[") 25 ⟨8, 0.5, 1⟩ {}
  obtain ⟨walk, ran⟩ : ∃ walk,
      (Walk.initial ⟨8, 0.5, 1⟩).run 25 0.5 (Alphabet.commands {} (ofText "F[+F[-")) = .ok walk := ⟨_, rfl⟩
  obtain ⟨drawing, drawn⟩ : ∃ drawing,
      segments (ofText "F[+F[-F]f]F[") 25 ⟨8, 0.5, 1⟩ {} = .ok drawing := ⟨_, rfl⟩
  obtain ⟨levels, depths, steps, -⟩ := onFronts (ofText "F[+F[-") walk (by decide) ran
  obtain ⟨start, segment, cosine, sine, before, found, depth, -, hasCosine, hasSine, -, -, x2, y2⟩ :=
    (onDrawings drawing drawn).2 (ofText "F[+F[-") 'F' (ofText "]f]F[") (by decide) (by decide)
  exact ⟨walk, drawing, start, segment, cosine, sine, ran, levels, depths, steps, drawn, before, found,
    depth, hasCosine, hasSine, x2, y2⟩

end Word

end PlantDrawing
