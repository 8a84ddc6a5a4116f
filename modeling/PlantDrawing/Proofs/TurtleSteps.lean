import PlantDrawing.Turtle
import PlantDrawing.Proofs.Outcome

/-!
# The steps of a walk

The turtle's walk as a relation: what each command does (`Walk.Step`) and what a
word does symbol by symbol (`Walk.Reads`). A walk succeeds exactly along this
relation (`Walk.run_eq_ok`, `Word.segments_eq_ok`), and a walk that fails does so
at one symbol, after a front that it has read (`Walk.run_eq_error`).
-/
namespace PlantDrawing

/-! ## What symbols mean -/

/-- What a symbol means under an alphabet, with the reason. -/
inductive Alphabet.Meaning (alphabet : Alphabet) (symbol : Char) : Option Command → Prop
  | draw (draws : alphabet.draws symbol = true) : Meaning alphabet symbol (some .draw)
  | move (undrawn : alphabet.draws symbol = false) (walked : alphabet.walks symbol = true) :
      Meaning alphabet symbol (some .move)
  | left (other : alphabet.walks symbol = false) (same : symbol = Word.leftTurn) :
      Meaning alphabet symbol (some .left)
  | right (other : alphabet.walks symbol = false) (same : symbol = Word.rightTurn) :
      Meaning alphabet symbol (some .right)
  | enter (other : alphabet.walks symbol = false) (same : symbol = Word.opening) :
      Meaning alphabet symbol (some .enter)
  | leave (other : alphabet.walks symbol = false) (same : symbol = Word.closing) :
      Meaning alphabet symbol (some .leave)
  | nothing (other : alphabet.walks symbol = false) (noOpening : symbol ≠ Word.opening)
      (noClosing : symbol ≠ Word.closing) : Meaning alphabet symbol none

namespace Alphabet

variable {alphabet : Alphabet} {symbol : Char} {command : Command} {word : Word}

theorem walks_of_draws (draws : alphabet.draws symbol = true) : alphabet.walks symbol = true := by
  simp [walks, draws]

theorem meaning (alphabet : Alphabet) (symbol : Char) :
    alphabet.Meaning symbol (alphabet.command? symbol) := by
  unfold command?
  split
  · exact .draw ‹_›
  · have undrawn : alphabet.draws symbol = false := by simpa using ‹¬ alphabet.draws symbol = true›
    split
    · exact .move undrawn ‹_›
    · have other : alphabet.walks symbol = false := by simpa using ‹¬ alphabet.walks symbol = true›
      split
      · exact .left other ‹_›
      · split
        · exact .right other ‹_›
        · split
          · exact .enter other ‹_›
          · split
            · exact .leave other ‹_›
            · exact .nothing other ‹_› ‹_›

theorem meaning_of_command? {meant : Option Command} (same : alphabet.command? symbol = meant) :
    alphabet.Meaning symbol meant :=
  same ▸ alphabet.meaning symbol

theorem command?_eq_draw : alphabet.command? symbol = some .draw ↔ alphabet.draws symbol = true := by
  constructor
  · intro same
    cases meaning_of_command? same with
    | draw draws => exact draws
  · intro draws
    simp [command?, draws]

theorem undrawn_of_other (other : alphabet.walks symbol = false) : alphabet.draws symbol = false := by
  rw [walks, Bool.or_eq_false_iff] at other
  exact other.1

theorem command?_of_other (other : alphabet.walks symbol = false) :
    alphabet.command? symbol =
      if symbol = Word.leftTurn then some .left
      else if symbol = Word.rightTurn then some .right
      else if symbol = Word.opening then some .enter
      else if symbol = Word.closing then some .leave
      else none := by
  rw [command?, undrawn_of_other other, other, if_neg Bool.false_ne_true, if_neg Bool.false_ne_true]

theorem command?_opening (other : alphabet.walks Word.opening = false) :
    alphabet.command? Word.opening = some .enter := by
  rw [command?_of_other other]
  rfl

theorem command?_closing (other : alphabet.walks Word.closing = false) :
    alphabet.command? Word.closing = some .leave := by
  rw [command?_of_other other]
  rfl

theorem commands_skip (meaningless : alphabet.command? symbol = none) :
    alphabet.commands (symbol :: word) = alphabet.commands word :=
  List.filterMap_cons_none meaningless

theorem commands_step (meaning : alphabet.command? symbol = some command) :
    alphabet.commands (symbol :: word) = command :: alphabet.commands word :=
  List.filterMap_cons_some meaning

end Alphabet

/-! ## What commands do -/

/-- What each command does to a walk. There is no step ahead of an infinite
    heading, and none out of a branch that was never entered. -/
inductive Walk.Step (angle scale : Float) : Walk → Command → Walk → Prop
  | draw {walk : Walk} {next : Pose} (ahead : walk.pose.forward = .ok next) :
      Step angle scale walk .draw ⟨next, walk.saved, walk.pose.segmentTo next :: walk.drawn⟩
  | move {walk : Walk} {next : Pose} (ahead : walk.pose.forward = .ok next) :
      Step angle scale walk .move ⟨next, walk.saved, walk.drawn⟩
  | left {walk : Walk} :
      Step angle scale walk .left
        ⟨{ walk.pose with heading := walk.pose.heading + angle }, walk.saved, walk.drawn⟩
  | right {walk : Walk} :
      Step angle scale walk .right
        ⟨{ walk.pose with heading := walk.pose.heading - angle }, walk.saved, walk.drawn⟩
  | enter {walk : Walk} :
      Step angle scale walk .enter ⟨walk.pose.deeper scale, walk.pose :: walk.saved, walk.drawn⟩
  | leave {walk : Walk} {pose : Pose} {rest : List Pose} (inside : walk.saved = pose :: rest) :
      Step angle scale walk .leave ⟨pose, rest, walk.drawn⟩

/-- What a word does to a walk, symbol by symbol. -/
inductive Walk.Reads (angle scale : Float) (alphabet : Alphabet) : Walk → Word → Walk → Prop
  | done (walk : Walk) : Reads angle scale alphabet walk [] walk
  | skip {walk last : Walk} {symbol : Char} {word : Word}
      (meaningless : alphabet.command? symbol = none)
      (rest : Reads angle scale alphabet walk word last) :
      Reads angle scale alphabet walk (symbol :: word) last
  | step {walk next last : Walk} {symbol : Char} {word : Word} {command : Command}
      (meaning : alphabet.command? symbol = some command) (first : Step angle scale walk command next)
      (rest : Reads angle scale alphabet next word last) :
      Reads angle scale alphabet walk (symbol :: word) last

namespace Walk

variable {angle scale : Float} {alphabet : Alphabet} {walk next last : Walk} {command : Command}
  {symbol : Char} {word : Word} {fault : Fault}

theorem apply_eq_ok : walk.apply angle scale command = .ok next ↔ Step angle scale walk command next := by
  constructor
  · intro applied
    cases command with
    | draw =>
      obtain ⟨pose, ahead, made⟩ := Outcome.bind_eq_ok.mp applied
      cases made
      exact .draw (Outcome.mapError_eq_ok.mp ahead)
    | move =>
      obtain ⟨pose, ahead, made⟩ := Outcome.bind_eq_ok.mp applied
      cases made
      exact .move (Outcome.mapError_eq_ok.mp ahead)
    | left => cases applied; exact .left
    | right => cases applied; exact .right
    | enter => cases applied; exact .enter
    | leave =>
      cases saved : walk.saved with
      | nil =>
        simp only [apply, saved] at applied
        cases applied
      | cons pose rest =>
        simp only [apply, saved] at applied
        cases applied
        exact .leave saved
  · intro step
    cases step with
    | draw ahead => exact Outcome.bind_eq_ok.mpr ⟨_, Outcome.mapError_eq_ok.mpr ahead, rfl⟩
    | move ahead => exact Outcome.bind_eq_ok.mpr ⟨_, Outcome.mapError_eq_ok.mpr ahead, rfl⟩
    | left => rfl
    | right => rfl
    | enter => rfl
    | leave inside => simp [apply, inside]

theorem forward_fault {finish : Pose → Walk}
    (failed : (walk.pose.forward.mapError Fault.arithmetic >>= fun pose => .ok (finish pose)) = .error fault) :
    ∃ cause, fault = .arithmetic cause := by
  rcases Outcome.bind_eq_error.mp failed with lost | ⟨_, _, late⟩
  · obtain ⟨cause, _, rfl⟩ := Outcome.mapError_eq_error.mp lost
    exact ⟨cause, rfl⟩
  · cases late

/-- A command fails where there is no step ahead, or at leaving a branch that was
    never entered. -/
theorem apply_eq_error (failed : walk.apply angle scale command = .error fault) :
    (∃ cause, fault = .arithmetic cause) ∨
      command = .leave ∧ walk.saved = [] ∧ fault = .unbalancedBranch walk.drawn.length := by
  cases command with
  | draw => exact .inl (forward_fault failed)
  | move => exact .inl (forward_fault failed)
  | left => cases failed
  | right => cases failed
  | enter => cases failed
  | leave =>
    cases saved : walk.saved with
    | nil =>
      simp only [apply, saved] at failed
      cases failed
      exact .inr ⟨rfl, rfl, rfl⟩
    | cons pose rest =>
      simp only [apply, saved] at failed
      cases failed

theorem apply_leave_nil (outside : walk.saved = []) :
    walk.apply angle scale .leave = .error (.unbalancedBranch walk.drawn.length) := by
  simp [apply, outside]

/-! ## Words -/

theorem run_commands_skip (meaningless : alphabet.command? symbol = none) :
    walk.run angle scale (alphabet.commands (symbol :: word)) =
      walk.run angle scale (alphabet.commands word) := by
  rw [Alphabet.commands_skip meaningless]

theorem run_commands_step (meaning : alphabet.command? symbol = some command) :
    walk.run angle scale (alphabet.commands (symbol :: word)) =
      (walk.apply angle scale command >>= fun next => next.run angle scale (alphabet.commands word)) := by
  rw [Alphabet.commands_step meaning, run, List.foldlM_cons]
  rfl

/-- A walk along a word succeeds exactly where the word reads. -/
theorem run_eq_ok :
    walk.run angle scale (alphabet.commands word) = .ok last ↔
      Reads angle scale alphabet walk word last := by
  constructor
  · intro ran
    induction word generalizing walk with
    | nil =>
      cases ran
      exact .done _
    | cons symbol word ih =>
      cases meaning : alphabet.command? symbol with
      | none => exact .skip meaning (ih ((run_commands_skip meaning).symm.trans ran))
      | some command =>
        rw [run_commands_step meaning] at ran
        obtain ⟨next, applied, rest⟩ := Outcome.bind_eq_ok.mp ran
        exact .step meaning (apply_eq_ok.mp applied) (ih rest)
  · intro reads
    induction reads with
    | done walk => rfl
    | skip meaningless _ ih => rw [run_commands_skip meaningless, ih]
    | step meaning first _ ih =>
      rw [run_commands_step meaning]
      exact Outcome.bind_eq_ok.mpr ⟨_, apply_eq_ok.mpr first, ih⟩

/-- A walk fails at one symbol, after a front of the word that it has read. -/
theorem run_eq_error :
    walk.run angle scale (alphabet.commands word) = .error fault ↔
      ∃ front symbol rest next command, word = front ++ symbol :: rest ∧
        Reads angle scale alphabet walk front next ∧ alphabet.command? symbol = some command ∧
        next.apply angle scale command = .error fault := by
  constructor
  · intro failed
    induction word generalizing walk with
    | nil => cases failed
    | cons symbol word ih =>
      cases meaning : alphabet.command? symbol with
      | none =>
        obtain ⟨front, last, rest, next, command, rfl, reads, means, broken⟩ :=
          ih ((run_commands_skip meaning).symm.trans failed)
        exact ⟨symbol :: front, last, rest, next, command, rfl, .skip meaning reads, means, broken⟩
      | some command =>
        rw [run_commands_step meaning] at failed
        rcases Outcome.bind_eq_error.mp failed with broken | ⟨next, applied, later⟩
        · exact ⟨[], symbol, word, walk, command, rfl, .done walk, meaning, broken⟩
        · obtain ⟨front, last, rest, stop, final, rfl, reads, means, broken⟩ := ih later
          exact ⟨symbol :: front, last, rest, stop, final, rfl,
            .step meaning (apply_eq_ok.mp applied) reads, means, broken⟩
  · rintro ⟨front, symbol, rest, next, command, rfl, reads, meaning, broken⟩
    induction reads with
    | done walk =>
      rw [List.nil_append, run_commands_step meaning]
      exact Outcome.bind_eq_error.mpr (.inl broken)
    | skip meaningless _ ih => exact (run_commands_skip meaningless).trans (ih broken)
    | step means first _ ih =>
      rw [List.cons_append, run_commands_step means]
      exact Outcome.bind_eq_error.mpr (.inr ⟨_, apply_eq_ok.mpr first, ih broken⟩)

/-- Two words one after the other continue one walk. -/
theorem reads_append {first second : Word} :
    Reads angle scale alphabet walk (first ++ second) last ↔
      ∃ middle, Reads angle scale alphabet walk first middle ∧
        Reads angle scale alphabet middle second last := by
  simp only [← run_eq_ok]
  rw [Alphabet.commands, List.filterMap_append, run_append, ← Alphabet.commands, ← Alphabet.commands]
  exact Outcome.bind_eq_ok

theorem reads_cons (meaning : alphabet.command? symbol = some command) :
    Reads angle scale alphabet walk (symbol :: word) last ↔
      ∃ next, Step angle scale walk command next ∧ Reads angle scale alphabet next word last := by
  constructor
  · intro reads
    cases reads with
    | skip meaningless _ => rw [meaning] at meaningless; cases meaningless
    | step same first rest =>
      rw [meaning] at same
      cases same
      exact ⟨_, first, rest⟩
  · rintro ⟨next, first, rest⟩
    exact .step meaning first rest

theorem reads_symbol (meaning : alphabet.command? symbol = some command) :
    Reads angle scale alphabet walk [symbol] last ↔ Step angle scale walk command last := by
  rw [reads_cons meaning]
  constructor
  · rintro ⟨next, step, rest⟩
    cases rest
    exact step
  · intro step
    exact ⟨last, step, .done last⟩

theorem reads_deterministic {other : Walk} (reads : Reads angle scale alphabet walk word last)
    (again : Reads angle scale alphabet walk word other) : last = other :=
  Except.ok.inj ((run_eq_ok.mpr reads).symm.trans (run_eq_ok.mpr again))

end Walk

/-! ## Drawings of words -/

variable {angle : Float} {settings : Settings} {alphabet : Alphabet} {word : Word}

/-- With settings in order, a word is drawn by the walk along it. -/
theorem Word.segments_of_valid (valid : settings.check = .ok ()) :
    word.segments angle settings alphabet =
      ((Walk.initial settings).run angle settings.scale (alphabet.commands word)).map Walk.segments := by
  rw [segments, valid]
  rfl

theorem Word.segments_eq_ok {drawing : List Segment} :
    word.segments angle settings alphabet = .ok drawing ↔
      settings.check = .ok () ∧ ∃ last,
        Walk.Reads angle settings.scale alphabet (.initial settings) word last ∧
          last.segments = drawing := by
  constructor
  · intro drawn
    obtain ⟨_, valid, _⟩ := Outcome.bind_eq_ok.mp drawn
    rw [segments_of_valid valid] at drawn
    obtain ⟨last, ran, same⟩ := Outcome.map_eq_ok.mp drawn
    exact ⟨valid, last, Walk.run_eq_ok.mp ran, same⟩
  · rintro ⟨valid, last, reads, same⟩
    rw [segments_of_valid valid]
    exact Outcome.map_eq_ok.mpr ⟨last, Walk.run_eq_ok.mpr reads, same⟩

end PlantDrawing
