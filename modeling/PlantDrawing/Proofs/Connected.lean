import PlantDrawing.Proofs.Levels

/-!
# Connected drawings

A turtle that draws wherever it walks leaves one connected plant. At every moment each of its
poses, its own and all that the branches around it have saved, stands at the origin or where a
segment ends that is no deeper (`Walk.Rooted`). So a closing bracket, however long ago its branch
was entered, puts the turtle back on the drawing, and the next segment grows from there
(`Word.segments_connected`).
-/
namespace PlantDrawing

/-- A place is held by a drawing at a depth if it is the origin or the end of a segment that is no
    deeper. -/
def HeldBy (drawing : List Segment) (x y : Float) (depth : Int) : Prop :=
  (x = 0 ∧ y = 0) ∨ ∃ parent ∈ drawing, parent.depth ≤ depth ∧ x = parent.x2 ∧ y = parent.y2

/-- Segments, the latest first, each of which starts at a place that those drawn before it hold. -/
def Connected : List Segment → Prop
  | [] => True
  | segment :: earlier => HeldBy earlier segment.x1 segment.y1 segment.depth ∧ Connected earlier

variable {drawing earlier later : List Segment} {segment : Segment} {x y : Float} {depth deeper : Int}

/-- What a drawing holds it holds in every deeper branch, whatever is drawn after it. -/
theorem HeldBy.mono (held : HeldBy drawing x y depth) (kept : ∀ parent ∈ drawing, parent ∈ later)
    (below : depth ≤ deeper) : HeldBy later x y deeper := by
  rcases held with origin | ⟨parent, member, shallow, same⟩
  · exact .inl origin
  · exact .inr ⟨parent, kept parent member, Int.le_trans shallow below, same⟩

theorem Connected.held (connected : Connected (later ++ segment :: earlier)) :
    HeldBy earlier segment.x1 segment.y1 segment.depth := by
  induction later with
  | nil => exact connected.1
  | cons _ later ih => exact ih connected.2

namespace Walk

variable {angle scale : Float} {alphabet : Alphabet} {walk next last : Walk} {command : Command}
  {word : Word}

/-- The segments of a walk are connected, and its pose and all those it has saved stand on them. -/
structure Rooted (walk : Walk) : Prop where
  connected : Connected walk.drawn
  standing : ∀ pose ∈ walk.pose :: walk.saved, HeldBy walk.drawn pose.x pose.y pose.depth

theorem rooted_initial (settings : Settings) : (initial settings).Rooted where
  connected := trivial
  standing pose member := by
    obtain rfl : pose = Pose.initial settings := by simpa [initial] using member
    exact .inl ⟨rfl, rfl⟩

/-- Every command but a move without a line keeps the turtle on its drawing. -/
theorem step_rooted (step : Step angle scale walk command next) (drawing : command ≠ .move)
    (rooted : walk.Rooted) : next.Rooted := by
  obtain ⟨own, below⟩ := List.forall_mem_cons.mp rooted.standing
  cases step with
  | @draw ahead forward =>
    obtain ⟨cosine, sine, -, -, rfl⟩ := Pose.forward_eq_ok.mp forward
    refine ⟨⟨own, rooted.connected⟩, List.forall_mem_cons.mpr ⟨?_, fun pose member => ?_⟩⟩
    · -- The turtle now stands at the end of the segment just drawn.
      exact .inr ⟨_, List.mem_cons_self, Int.le_refl _, rfl, rfl⟩
    · exact (below pose member).mono (fun _ => List.mem_cons_of_mem _) (Int.le_refl _)
  | move _ => exact absurd rfl drawing
  | left => exact ⟨rooted.connected, List.forall_mem_cons.mpr ⟨own, below⟩⟩
  | right => exact ⟨rooted.connected, List.forall_mem_cons.mpr ⟨own, below⟩⟩
  | enter =>
    refine ⟨rooted.connected, List.forall_mem_cons.mpr ⟨?_, rooted.standing⟩⟩
    exact own.mono (fun _ member => member) (by simp only [Pose.deeper]; omega)
  | leave inside =>
    refine ⟨rooted.connected, fun pose member => below pose ?_⟩
    rw [inside]
    exact member

theorem reads_rooted (reads : Reads angle scale alphabet walk word last)
    (drawing : ∀ symbol ∈ word, alphabet.command? symbol ≠ some .move) (rooted : walk.Rooted) :
    last.Rooted := by
  induction reads with
  | done walk => exact rooted
  | skip _ _ ih => exact ih (List.forall_mem_cons.mp drawing).2 rooted
  | step meaning first _ ih =>
    obtain ⟨here, rest⟩ := List.forall_mem_cons.mp drawing
    refine ih rest (step_rooted first ?_ rooted)
    rintro rfl
    exact here meaning

end Walk

/-- A symbol that is listed as a move moves without a line only if it is not listed as drawing. -/
theorem Alphabet.command?_ne_move {alphabet : Alphabet} {symbol : Char}
    (drawn : [symbol] ∈ alphabet.move → alphabet.draws symbol = true) :
    alphabet.command? symbol ≠ some .move := by
  intro moves
  cases meaning_of_command? moves with
  | move undrawn walked =>
    have listed : [symbol] ∈ alphabet.move := by simpa [walks, undrawn] using walked
    rw [drawn listed] at undrawn
    cases undrawn

namespace Word

/-- If no symbol of a word moves the turtle without a line, every segment of its drawing starts at
    the origin or exactly where an earlier segment ends that is no deeper than itself. In particular
    this holds of a word that has no symbol listed as a move. -/
theorem segments_connected {word : Word} {angle : Float} {settings : Settings} {alphabet : Alphabet}
    {drawing : List Segment}
    (trailing : ∀ symbol ∈ word, [symbol] ∈ alphabet.move → alphabet.draws symbol = true)
    (drawn : word.segments angle settings alphabet = .ok drawing) :
    ∀ earlier segment later, drawing = earlier ++ segment :: later →
      (segment.x1 = 0 ∧ segment.y1 = 0) ∨
        ∃ parent ∈ earlier, parent.depth ≤ segment.depth ∧ segment.x1 = parent.x2 ∧ segment.y1 = parent.y2 := by
  intro earlier segment later split
  obtain ⟨-, last, reads, rfl⟩ := segments_eq_ok.mp drawn
  have rooted := Walk.reads_rooted reads
    (fun symbol member => Alphabet.command?_ne_move (trailing symbol member)) (Walk.rooted_initial settings)
  have order : last.drawn = later.reverse ++ segment :: earlier.reverse := by
    simpa [Walk.segments] using congrArg List.reverse split
  have held : HeldBy earlier.reverse segment.x1 segment.y1 segment.depth := Connected.held (order ▸ rooted.connected)
  exact held.mono (fun _ => List.mem_reverse.mp) (Int.le_refl _)

/-- A stem with a branch that has a branch of its own, and with one that is left open. The fourth
    segment grows from the stem, two levels up from the one drawn before it. -/
theorem branches_connected :
    (∀ symbol ∈ ofText "F[+F[-F]]-F[F", [symbol] ∈ ({} : Alphabet).move → Alphabet.draws {} symbol = true) ∧
      ∃ drawing, segments (ofText "F[+F[-F]]-F[F") 25 {} {} = .ok drawing ∧ drawing.length = 5 ∧
        ∀ earlier segment later, drawing = earlier ++ segment :: later →
          (segment.x1 = 0 ∧ segment.y1 = 0) ∨
            ∃ parent ∈ earlier, parent.depth ≤ segment.depth ∧ segment.x1 = parent.x2 ∧
              segment.y1 = parent.y2 := by
  have trailing : ∀ symbol ∈ ofText "F[+F[-F]]-F[F", [symbol] ∈ ({} : Alphabet).move →
      Alphabet.draws {} symbol = true := by
    intro symbol member listed
    have moves : symbol = 'f' ∨ symbol = 'g' := by simpa using listed
    rcases moves with rfl | rfl
    · exact absurd member (by decide)
    · exact absurd member (by decide)
  obtain ⟨drawing, drawn, counted⟩ : ∃ drawing, segments (ofText "F[+F[-F]]-F[F") 25 {} {} = .ok drawing ∧
      drawing.length = 5 := ⟨_, rfl, rfl⟩
  exact ⟨trailing, drawing, drawn, counted, segments_connected trailing drawn⟩

end Word

end PlantDrawing
