import PlantDrawing.Proofs.Grain
import PlantDrawing.Proofs.TurtleBrackets

/-!
# Headings stay finite

A turtle that turns by a moderate angle never looks at infinity, however long its
word is: once a heading is so large that the angle is less than half of its last
place, a turn leaves it as it is (`Walk.reads_steady`). So there is always a step
ahead, and a walk can fail only at a bracket (`Word.segments_defined`).
-/
namespace PlantDrawing

/-- An angle that is small beside the largest doubles. -/
def ModerateAngle (angle : Float) : Prop := Double.GrainAtMost 916 angle.toModel.unpack

/-- A pose with a heading that is finite, in degrees and in radians. -/
def Pose.Steady (pose : Pose) : Prop := Double.GrainAtMost 970 pose.heading.toModel.unpack

instance (angle : Float) : Decidable (ModerateAngle angle) :=
  inferInstanceAs (Decidable (Double.GrainAtMost 916 angle.toModel.unpack))

theorem grain_radiansPerDegree : Double.GrainAtMost (-58) Double.radiansPerDegree.toModel.unpack := by
  decide

theorem Pose.forward_of_steady {pose : Pose} (steady : pose.Steady) :
    ∃ next, pose.forward = .ok next ∧ next.heading = pose.heading := by
  have grain := Double.grain_mul (by decide) (by decide) steady grain_radiansPerDegree
  have finite : (Double.radians pose.heading).isInf = false := Double.isInf_of_grain grain
  unfold forward Double.cosine Double.sine
  simp only [finite]
  exact ⟨_, rfl, rfl⟩

namespace Walk

variable {angle scale : Float} {alphabet : Alphabet} {walk next last : Walk} {command : Command}
  {word : Word}

/-- The pose of a walk and those it has saved have finite headings. -/
def Steady (walk : Walk) : Prop := ∀ pose ∈ walk.pose :: walk.saved, pose.Steady

theorem steady_initial (settings : Settings) : (initial settings).Steady := by
  intro pose member
  have only : pose = Pose.initial settings := by simpa [initial] using member
  subst only
  change Double.GrainAtMost 970 (0 : Float).toModel.unpack
  decide

theorem step_steady (moderate : ModerateAngle angle) (step : Step angle scale walk command next)
    (steady : walk.Steady) : next.Steady := by
  have top : walk.pose.Steady := steady walk.pose (by simp)
  have below : ∀ pose ∈ walk.saved, pose.Steady := fun pose member => steady pose (by simp [member])
  have onTop : ∀ pose : Pose, pose.Steady → ∀ other ∈ pose :: walk.saved, other.Steady :=
    fun pose isSteady => List.forall_mem_cons.mpr ⟨isSteady, below⟩
  have ahead : ∀ pose, walk.pose.forward = .ok pose → pose.Steady := by
    intro pose forward
    obtain ⟨same, made, heading⟩ := Pose.forward_of_steady top
    rw [forward] at made
    cases made
    rw [Pose.Steady, heading]
    exact top
  cases step with
  | draw forward => exact onTop _ (ahead _ forward)
  | move forward => exact onTop _ (ahead _ forward)
  | left => exact onTop _ (Double.grain_add (by decide) (by decide) top moderate)
  | right => exact onTop _ (Double.grain_sub (by decide) (by decide) top moderate)
  | enter => exact List.forall_mem_cons.mpr ⟨top, steady⟩
  | leave inside =>
    intro pose member
    exact below pose (by rw [inside]; exact member)

theorem reads_steady (moderate : ModerateAngle angle)
    (reads : Reads angle scale alphabet walk word last) (steady : walk.Steady) : last.Steady := by
  induction reads with
  | done walk => exact steady
  | skip _ _ ih => exact ih steady
  | step _ first _ ih => exact ih (step_steady moderate first steady)

theorem apply_defined (steady : walk.Steady) (cause : ArithmeticFault) :
    walk.apply angle scale command ≠ .error (.arithmetic cause) := by
  obtain ⟨ahead, forward, -⟩ := Pose.forward_of_steady (steady walk.pose (by simp))
  intro failed
  cases command with
  | draw =>
    rw [apply, forward] at failed
    cases failed
  | move =>
    rw [apply, forward] at failed
    cases failed
  | left => cases failed
  | right => cases failed
  | enter => cases failed
  | leave =>
    cases saved : walk.saved with
    | nil =>
      simp only [apply, saved] at failed
      cases failed
    | cons pose rest =>
      simp only [apply, saved] at failed
      cases failed

end Walk

namespace Word

variable {angle : Float} {settings : Settings} {alphabet : Alphabet}

/-- Under a moderate angle every step has a place to go. -/
theorem segments_defined (word : Word) (valid : settings.check = .ok ()) (alphabet : Alphabet)
    (moderate : ModerateAngle angle) (cause : ArithmeticFault) :
    word.segments angle settings alphabet ≠ .error (.arithmetic cause) := by
  intro failed
  rw [segments_of_valid valid, Outcome.map_eq_error] at failed
  obtain ⟨front, symbol, rest, next, command, -, reads, -, broken⟩ := Walk.run_eq_error.mp failed
  exact Walk.apply_defined (Walk.reads_steady moderate reads (Walk.steady_initial settings)) cause broken

/-- A balanced word is drawn. -/
theorem segments_of_balanced {word : Word} (valid : settings.check = .ok ())
    (spares : alphabet.SparesBrackets) (moderate : ModerateAngle angle) (balanced : word.Balanced) :
    ∃ drawing, word.segments angle settings alphabet = .ok drawing := by
  have level : balance (alphabet.unwalked word) = some 0 :=
    (spares.heightFrom_unwalked 0 word).trans balanced
  obtain ⟨last, reads, -⟩ := reads_of_height valid (segments_defined word valid alphabet moderate) level
  exact ⟨last.segments, segments_eq_ok.mpr ⟨valid, last, reads, rfl⟩⟩

end Word

end PlantDrawing
