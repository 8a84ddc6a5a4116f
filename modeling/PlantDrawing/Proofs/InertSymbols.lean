import Mathlib.Tactic.SplitIfs
import PlantDrawing.Proofs.TurtleSteps

/-!
# Symbols that the turtle passes over

The turtle understands the symbols of its alphabet, the turns and the brackets. The commands of a
word are those of the symbols it understands (`Alphabet.commands_understood`), so symbols that it
does not understand may stand anywhere: a walk ends, or fails, as it would without them. Nor does
the turtle look at the width of a stroke. So two words that hold the same symbols it understands are
drawn alike, whatever the strokes (`Word.segments_determined`).
-/
namespace PlantDrawing

namespace Alphabet

/-- The turtle understands a symbol that it draws or moves at, a turn or a bracket. -/
def understands (alphabet : Alphabet) (symbol : Char) : Bool :=
  alphabet.walks symbol || [Word.leftTurn, Word.rightTurn, Word.opening, Word.closing].contains symbol

/-- The symbols of a word that the turtle understands, in their order. -/
def understood (alphabet : Alphabet) (word : Word) : Word :=
  word.filter alphabet.understands

variable {alphabet : Alphabet} {symbol : Char}

theorem isSome_command?_of_walks (walked : alphabet.walks symbol = true) :
    (alphabet.command? symbol).isSome = true := by
  rw [command?, if_pos walked]
  split <;> rfl

/-- The symbols that mean something are those that the turtle understands. -/
theorem isSome_command? (alphabet : Alphabet) (symbol : Char) :
    (alphabet.command? symbol).isSome = alphabet.understands symbol := by
  cases walked : alphabet.walks symbol with
  | true => rw [isSome_command?_of_walks walked, understands, walked, Bool.true_or]
  | false =>
    rw [command?_of_other walked, understands, walked, Bool.false_or]
    split_ifs <;> simp [*]

theorem command?_eq_none : alphabet.command? symbol = none ↔ alphabet.understands symbol = false := by
  rw [← isSome_command?, Option.isSome_eq_false_iff, Option.isNone_iff_eq_none]

/-- A word tells the turtle what the symbols in it that the turtle understands do. -/
theorem commands_understood (alphabet : Alphabet) (word : Word) :
    alphabet.commands (alphabet.understood word) = alphabet.commands word := by
  induction word with
  | nil => rfl
  | cons symbol word ih =>
    cases meaning : alphabet.command? symbol with
    | none =>
      have unknown : ¬ alphabet.understands symbol = true := by simp [command?_eq_none.mp meaning]
      rw [understood, List.filter_cons_of_neg unknown, ← understood, ih, commands_skip meaning]
    | some command =>
      have known : alphabet.understands symbol = true := by rw [← isSome_command?, meaning, Option.isSome_some]
      rw [understood, List.filter_cons_of_pos known, ← understood, commands_step meaning, ih, commands_step meaning]

end Alphabet

variable {alphabet : Alphabet} {word other : Word} {angle : Float} {settings settings' : Settings}

/-- The symbols that the turtle does not understand change nothing about how a word comes out. -/
theorem Word.segments_understood :
    (alphabet.understood word).segments angle settings alphabet = word.segments angle settings alphabet := by
  rw [segments, segments, alphabet.commands_understood]

/-- The check of the settings is a check of the steps alone. -/
theorem Settings.check_congr (step : settings.step = settings'.step) (scale : settings.scale = settings'.scale) :
    settings.check = settings'.check := by
  rw [check, check, step, scale]

/-- The turtle looks at the steps of the settings alone. -/
theorem Word.segments_of_steps (step : settings.step = settings'.step) (scale : settings.scale = settings'.scale) :
    word.segments angle settings alphabet = word.segments angle settings' alphabet := by
  have start : Walk.initial settings = Walk.initial settings' := by
    rw [Walk.initial, Walk.initial, Pose.initial, Pose.initial, step]
  rw [segments, segments, Settings.check_congr step scale, start, scale]

/-- Two words with the same symbols that the turtle understands, in the same order, come out alike
    under settings with the same steps: the same segments are drawn, or the same fault is reported,
    whatever the width of the strokes. -/
theorem Word.segments_determined (alike : alphabet.understood word = alphabet.understood other)
    (step : settings.step = settings'.step) (scale : settings.scale = settings'.scale) :
    word.segments angle settings alphabet = other.segments angle settings' alphabet := by
  calc word.segments angle settings alphabet
    _ = (alphabet.understood word).segments angle settings alphabet := segments_understood.symm
    _ = (alphabet.understood other).segments angle settings alphabet := by rw [alike]
    _ = other.segments angle settings alphabet := segments_understood
    _ = other.segments angle settings' alphabet := segments_of_steps step scale

/-- A twig that leaves a branch too many, with and without buds: the turtle stops at the same
    bracket, with strokes of a negative width as with strokes whose width is no number. -/
theorem Word.segments_determined_buds :
    ((Word.ofText "AF[-BF]]C").segments 25 { stroke := -1 } {} =
      (Word.ofText "F[-F]]").segments 25 { stroke := 0 / 0 } {}) ∧
    (Alphabet.understood {} (Word.ofText "AF[-BF]]C") = Word.ofText "F[-F]]") :=
  ⟨Word.segments_determined (by decide) rfl rfl, by decide⟩

end PlantDrawing
