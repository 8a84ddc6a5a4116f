import PlantDrawing.Word

/-!
# Counting brackets

Reading a word bracket by bracket (`Word.heightFrom`) against counting its
brackets. A reading ends at the height that the counts give, and it breaks off
exactly when some beginning of the word closes more branches than were open
before it and than it opens itself (`heightFrom_eq_some`, `heightFrom_eq_none`).
-/
namespace PlantDrawing.Word

/-- How many branches a word opens. -/
def openings (word : Word) : Nat := word.count opening

/-- How many branches a word closes. -/
def closings (word : Word) : Nat := word.count closing

@[simp] theorem openings_nil : openings [] = 0 := rfl

@[simp] theorem closings_nil : closings [] = 0 := rfl

@[simp] theorem openings_append (first second : Word) :
    openings (first ++ second) = openings first + openings second :=
  List.count_append

@[simp] theorem closings_append (first second : Word) :
    closings (first ++ second) = closings first + closings second :=
  List.count_append

theorem openings_cons (symbol : Char) (word : Word) :
    openings (symbol :: word) = openings [symbol] + openings word :=
  openings_append [symbol] word

theorem closings_cons (symbol : Char) (word : Word) :
    closings (symbol :: word) = closings [symbol] + closings word :=
  closings_append [symbol] word

@[simp] theorem openings_opening : openings [opening] = 1 := rfl

@[simp] theorem closings_opening : closings [opening] = 0 := rfl

@[simp] theorem openings_closing : openings [closing] = 0 := rfl

@[simp] theorem closings_closing : closings [closing] = 1 := rfl

theorem openings_plain {symbol : Char} (plain : symbol ≠ opening) : openings [symbol] = 0 :=
  List.count_eq_zero.mpr (by simpa using plain.symm)

theorem closings_plain {symbol : Char} (plain : symbol ≠ closing) : closings [symbol] = 0 :=
  List.count_eq_zero.mpr (by simpa using plain.symm)

/-! ## One symbol -/

theorem heightStep_opening (height : Nat) : heightStep height opening = some (height + 1) := rfl

theorem heightStep_closing_zero : heightStep 0 closing = none := rfl

theorem heightStep_closing_succ (height : Nat) : heightStep (height + 1) closing = some height := rfl

theorem heightStep_plain (height : Nat) {symbol : Char} (noOpening : symbol ≠ opening)
    (noClosing : symbol ≠ closing) : heightStep height symbol = some height := by
  unfold heightStep
  rw [if_neg noOpening, if_neg noClosing]

theorem heightStep_eq_some {height next : Nat} {symbol : Char} :
    heightStep height symbol = some next ↔
      next + closings [symbol] = height + openings [symbol] := by
  by_cases isOpening : symbol = opening
  · subst isOpening
    simp [heightStep_opening, eq_comm]
  · by_cases isClosing : symbol = closing
    · subst isClosing
      cases height with
      | zero => simp [heightStep_closing_zero]
      | succ height => simp [heightStep_closing_succ, eq_comm]
    · simp [heightStep_plain height isOpening isClosing, openings_plain isOpening,
        closings_plain isClosing, eq_comm]

/-! ## Whole words -/

/-- A reading reaches the end of a word exactly when no beginning of it closes
    too many branches, and then the counts give the height at the end. -/
theorem heightFrom_eq_some {height last : Nat} {word : Word} :
    heightFrom height word = some last ↔
      (∀ front, front <+: word → closings front ≤ height + openings front) ∧
        last + closings word = height + openings word := by
  -- For every height at once: each symbol moves the height at which the rest is read.
  induction word generalizing height with
  | nil => simp [eq_comm]
  | cons symbol word ih =>
    rw [heightFrom_cons, Option.bind_eq_some_iff, openings_cons, closings_cons]
    constructor
    · rintro ⟨next, step, rest⟩
      obtain ⟨fronts, total⟩ := ih.mp rest
      have counted := heightStep_eq_some.mp step
      refine ⟨fun front begins => ?_, by omega⟩
      rcases List.prefix_cons_iff.mp begins with rfl | ⟨tail, rfl, tailBegins⟩
      · simp
      · have bound := fronts tail tailBegins
        rw [openings_cons, closings_cons]
        omega
    · rintro ⟨fronts, total⟩
      have head : closings [symbol] ≤ height + openings [symbol] :=
        fronts [symbol] (by simp)
      refine ⟨height + openings [symbol] - closings [symbol], heightStep_eq_some.mpr (by omega), ?_⟩
      refine ih.mpr ⟨fun front begins => ?_, by omega⟩
      have bound := fronts (symbol :: front) (by simpa using begins)
      rw [openings_cons, closings_cons] at bound
      omega

/-- A reading breaks off exactly when some beginning of the word closes more
    branches than there are. -/
theorem heightFrom_eq_none {height : Nat} {word : Word} :
    heightFrom height word = none ↔
      ∃ front, front <+: word ∧ height + openings front < closings front := by
  constructor
  · intro broken
    refine Classical.byContradiction fun none_such => ?_
    have fronts : ∀ front, front <+: word → closings front ≤ height + openings front :=
      fun front begins => Nat.le_of_not_lt fun less => none_such ⟨front, begins, less⟩
    have total := fronts word (List.prefix_refl word)
    have reached : heightFrom height word = some (height + openings word - closings word) :=
      heightFrom_eq_some.mpr ⟨fronts, by omega⟩
    rw [broken] at reached
    cases reached
  · rintro ⟨front, begins, less⟩
    cases reading : heightFrom height word with
    | none => rfl
    | some last =>
      have bound := (heightFrom_eq_some.mp reading).1 front begins
      omega

/-- A word reads alike above branches that it leaves alone. -/
theorem heightFrom_add {height last : Nat} {word : Word} (below : Nat)
    (reading : heightFrom height word = some last) :
    heightFrom (height + below) word = some (last + below) := by
  obtain ⟨fronts, total⟩ := heightFrom_eq_some.mp reading
  refine heightFrom_eq_some.mpr ⟨fun front begins => ?_, by omega⟩
  have bound := fronts front begins
  omega

/-- A balanced word ends at the height at which it starts. -/
theorem Balanced.heightFrom {word : Word} (balanced : Balanced word) (height : Nat) :
    heightFrom height word = some height := by
  have lifted := heightFrom_add height balanced
  rwa [Nat.zero_add] at lifted

theorem balanced_iff {word : Word} :
    Balanced word ↔
      (∀ front, front <+: word → closings front ≤ openings front) ∧ closings word = openings word := by
  simp [Balanced, balance, heightFrom_eq_some]

end PlantDrawing.Word
