import PlantDrawing.Proofs.BracketCounts
import PlantDrawing.Proofs.Generations
import PlantDrawing.Proofs.TurtleSteps

/-!
# Brackets under the turtle

The number of poses that a walk has saved is the height of the word it has read,
counting the brackets that the alphabet does not walk on (`Walk.reads_height`).
So a walk leaves a branch it never entered exactly where the reading of the word
breaks off (`Walk.run_unbalanced_iff`), and for an alphabet that keeps its hands
off brackets the turtle and `Word.balance` agree on every word
(`Word.turtle_agrees_with_balance`).
-/
namespace PlantDrawing

namespace Alphabet

/-- The symbols of a word that the turtle does not walk on. The brackets among
    them are those that enter and leave branches. -/
def unwalked (alphabet : Alphabet) (word : Word) : Word :=
  word.filter fun symbol => !alphabet.walks symbol

/-- The turtle walks on neither bracket. -/
def SparesBrackets (alphabet : Alphabet) : Prop :=
  alphabet.walks Word.opening = false ∧ alphabet.walks Word.closing = false

instance (alphabet : Alphabet) : Decidable alphabet.SparesBrackets :=
  inferInstanceAs (Decidable (_ ∧ _))

variable {alphabet : Alphabet} {symbol : Char}

theorem unwalked_cons (alphabet : Alphabet) (symbol : Char) (word : Word) :
    alphabet.unwalked (symbol :: word) = alphabet.unwalked [symbol] ++ alphabet.unwalked word :=
  List.filter_append [symbol] word

theorem unwalked_walked (walked : alphabet.walks symbol = true) : alphabet.unwalked [symbol] = [] := by
  simp [unwalked, walked]

theorem unwalked_other (other : alphabet.walks symbol = false) :
    alphabet.unwalked [symbol] = [symbol] := by
  simp [unwalked, other]

end Alphabet

/-- The bracket behind a command. -/
def Command.bracket : Command → Word
  | .enter => [Word.opening]
  | .leave => [Word.closing]
  | _ => []

namespace Alphabet

variable {alphabet : Alphabet} {symbol : Char} {command : Command}

/-- A symbol with a meaning reads like the bracket behind its command. -/
theorem heightFrom_unwalked (height : Nat) (same : alphabet.command? symbol = some command) :
    Word.heightFrom height (alphabet.unwalked [symbol]) = Word.heightFrom height command.bracket := by
  cases meaning_of_command? same with
  | draw draws => rw [unwalked_walked (walks_of_draws draws)]; rfl
  | move _ walked => rw [unwalked_walked walked]; rfl
  | left other isLeft => rw [unwalked_other other, isLeft]; rfl
  | right other isRight => rw [unwalked_other other, isRight]; rfl
  | enter other isOpening => rw [unwalked_other other, isOpening]; rfl
  | leave other isClosing => rw [unwalked_other other, isClosing]; rfl

theorem heightFrom_meaningless (height : Nat) (meaningless : alphabet.command? symbol = none) :
    Word.heightFrom height (alphabet.unwalked [symbol]) = some height := by
  cases meaning_of_command? meaningless with
  | nothing other noOpening noClosing =>
    rw [unwalked_other other, Word.heightFrom_cons, Word.heightStep_plain height noOpening noClosing]
    rfl

/-- An alphabet that spares the brackets hides none of them. -/
theorem SparesBrackets.heightFrom_unwalked (spares : alphabet.SparesBrackets) (height : Nat)
    (word : Word) : Word.heightFrom height (alphabet.unwalked word) = Word.heightFrom height word := by
  induction word generalizing height with
  | nil => rfl
  | cons symbol word ih =>
    rw [unwalked_cons, Word.heightFrom_append]
    cases walked : alphabet.walks symbol with
    | true =>
      -- The alphabet takes this symbol away, but it is no bracket.
      have differs : ∀ bracket, alphabet.walks bracket = false → symbol ≠ bracket := by
        rintro bracket spared rfl
        rw [spared] at walked
        cases walked
      rw [unwalked_walked walked, Word.heightFrom_cons,
        Word.heightStep_plain height (differs _ spares.1) (differs _ spares.2)]
      exact ih height
    | false =>
      rw [unwalked_other walked, Word.heightFrom_cons, Word.heightFrom_cons]
      cases Word.heightStep height symbol with
      | none => rfl
      | some next => exact ih next

end Alphabet

namespace Walk

variable {angle scale : Float} {alphabet : Alphabet} {walk next last : Walk} {command : Command}
  {symbol : Char} {word : Word}

/-! ## Heights of walks -/

/-- A step saves and gives back poses as its bracket opens and closes. -/
theorem step_height (step : Step angle scale walk command next) :
    Word.heightFrom walk.saved.length command.bracket = some next.saved.length := by
  cases step with
  | draw _ => rfl
  | move _ => rfl
  | left => rfl
  | right => rfl
  | enter => rfl
  | leave inside => rw [inside]; rfl

/-- As many poses are saved as branches are open. -/
theorem reads_height (reads : Reads angle scale alphabet walk word last) :
    Word.heightFrom walk.saved.length (alphabet.unwalked word) = some last.saved.length := by
  induction reads with
  | done walk => rfl
  | skip meaningless _ ih =>
    rw [Alphabet.unwalked_cons, Word.heightFrom_append, Alphabet.heightFrom_meaningless _ meaningless]
    exact ih
  | step meaning first _ ih =>
    rw [Alphabet.unwalked_cons, Word.heightFrom_append, Alphabet.heightFrom_unwalked _ meaning,
      step_height first]
    exact ih

theorem step_drawn_length (step : Step angle scale walk command next) :
    next.drawn.length = walk.drawn.length + if command = .draw then 1 else 0 := by
  cases step with
  | draw _ => rfl
  | move _ => rfl
  | left => rfl
  | right => rfl
  | enter => rfl
  | leave _ => rfl

/-- Each symbol that draws adds one segment, and no other symbol adds any. -/
theorem reads_drawn_length (reads : Reads angle scale alphabet walk word last) :
    last.drawn.length = walk.drawn.length + word.countP alphabet.draws := by
  induction reads with
  | done walk => rfl
  | skip meaningless _ ih =>
    have undrawn := mt Alphabet.command?_eq_draw.mpr (by rw [meaningless]; nofun)
    rw [ih, List.countP_cons_of_neg undrawn]
  | @step walk next last symbol word command meaning first _ ih =>
    have same : alphabet.draws symbol = true ↔ command = .draw := by
      rw [← Alphabet.command?_eq_draw, meaning, Option.some.injEq]
    rw [ih, step_drawn_length first, List.countP_cons]
    by_cases draws : alphabet.draws symbol = true
    · rw [if_pos draws, if_pos (same.mp draws)]
      omega
    · rw [if_neg draws, if_neg (mt same.mpr draws)]
      omega

/-! ## Branches never entered -/

/-- A walk leaves a branch it never entered at a closing bracket, with nothing
    saved. -/
theorem run_unbalanced {drawn : Nat}
    (failed : walk.run angle scale (alphabet.commands word) = .error (.unbalancedBranch drawn)) :
    ∃ front rest next, word = front ++ Word.closing :: rest ∧ alphabet.walks Word.closing = false ∧
      Reads angle scale alphabet walk front next ∧ next.saved = [] ∧ drawn = next.drawn.length := by
  obtain ⟨front, symbol, rest, next, command, rfl, reads, meaning, broken⟩ := run_eq_error.mp failed
  rcases apply_eq_error broken with ⟨cause, impossible⟩ | ⟨rfl, outside, same⟩
  · cases impossible
  · cases Alphabet.meaning_of_command? meaning with
    | leave other isClosing =>
      cases isClosing
      cases same
      exact ⟨front, rest, next, rfl, other, reads, outside, rfl⟩

theorem run_fault {fault : Fault} (failed : walk.run angle scale (alphabet.commands word) = .error fault) :
    (∃ cause, fault = .arithmetic cause) ∨ ∃ drawn, fault = .unbalancedBranch drawn := by
  obtain ⟨_, _, _, next, _, _, _, _, broken⟩ := run_eq_error.mp failed
  rcases apply_eq_error broken with arithmetic | ⟨_, _, same⟩
  · exact .inl arithmetic
  · exact .inr ⟨next.drawn.length, same⟩

/-- Where every step has a place to go, a walk leaves a branch it never entered
    exactly if the reading of the word breaks off. -/
theorem run_unbalanced_iff
    (defined : ∀ cause, walk.run angle scale (alphabet.commands word) ≠ .error (.arithmetic cause)) :
    (∃ drawn, walk.run angle scale (alphabet.commands word) = .error (.unbalancedBranch drawn)) ↔
      Word.heightFrom walk.saved.length (alphabet.unwalked word) = none := by
  constructor
  · rintro ⟨drawn, failed⟩
    obtain ⟨front, rest, next, rfl, other, reads, outside, _⟩ := run_unbalanced failed
    have reached := reads_height reads
    rw [outside, List.length_nil] at reached
    rw [Alphabet.unwalked, List.filter_append, ← Alphabet.unwalked, ← Alphabet.unwalked,
      Alphabet.unwalked_cons, Alphabet.unwalked_other other, Word.heightFrom_append, reached]
    rfl
  · intro broken
    -- A walk to the end of the word would have read all of it.
    cases ran : walk.run angle scale (alphabet.commands word) with
    | ok last =>
      rw [reads_height (run_eq_ok.mp ran)] at broken
      cases broken
    | error fault =>
      rcases run_fault ran with ⟨cause, rfl⟩ | ⟨drawn, rfl⟩
      · exact absurd ran (defined cause)
      · exact ⟨drawn, rfl⟩

/-- Closing brackets give back saved poses one by one and draw nothing. -/
theorem reads_closings (other : alphabet.walks Word.closing = false) {count : Nat}
    (enough : count ≤ walk.saved.length) :
    ∃ next, Reads angle scale alphabet walk (List.replicate count Word.closing) next ∧
      next.drawn = walk.drawn ∧ next.saved.length + count = walk.saved.length := by
  induction count generalizing walk with
  | zero => exact ⟨walk, .done walk, rfl, rfl⟩
  | succ count ih =>
    cases saved : walk.saved with
    | nil => simp [saved] at enough
    | cons pose rest =>
      rw [saved, List.length_cons] at enough
      have room : count ≤ (Walk.mk pose rest walk.drawn).saved.length := Nat.le_of_succ_le_succ enough
      obtain ⟨next, reads, drawn, total⟩ := ih room
      refine ⟨next, .step (Alphabet.command?_closing other) (.leave saved) reads, drawn, ?_⟩
      simp only [List.length_cons] at total ⊢
      omega

end Walk

/-! ## Words -/

namespace Word

variable {angle : Float} {settings : Settings} {alphabet : Alphabet} {word : Word}

theorem segments_unbalanced_iff (valid : settings.check = .ok ())
    (defined : ∀ cause, word.segments angle settings alphabet ≠ .error (.arithmetic cause)) :
    (∃ drawn, word.segments angle settings alphabet = .error (.unbalancedBranch drawn)) ↔
      balance (alphabet.unwalked word) = none := by
  simp only [segments_of_valid valid, ne_eq, Outcome.map_eq_error] at defined ⊢
  exact Walk.run_unbalanced_iff defined

/-- A word that fails at a closing bracket fails at its first one too many, and
    so does every word with the same front. -/
theorem segments_unbalanced {drawn : Nat} (valid : settings.check = .ok ())
    (failed : word.segments angle settings alphabet = .error (.unbalancedBranch drawn)) :
    ∃ front rest : Word, word = front ++ closing :: rest ∧ balance (alphabet.unwalked front) = some 0 ∧
      (∃ drawing, front.segments angle settings alphabet = .ok drawing) ∧
      ∀ later, segments (front ++ closing :: later) angle settings alphabet =
        .error (.unbalancedBranch (front.countP alphabet.draws)) := by
  rw [segments_of_valid valid, Outcome.map_eq_error] at failed
  obtain ⟨front, rest, next, split, other, reads, outside, -⟩ := Walk.run_unbalanced failed
  have level : balance (alphabet.unwalked front) = some next.saved.length := Walk.reads_height reads
  rw [outside] at level
  have counted : next.drawn.length = front.countP alphabet.draws := by
    simpa [Walk.initial] using Walk.reads_drawn_length reads
  refine ⟨front, rest, split, level, ⟨_, segments_eq_ok.mpr ⟨valid, next, reads, rfl⟩⟩, fun later => ?_⟩
  rw [segments_of_valid valid, Outcome.map_eq_error, ← counted]
  exact Walk.run_eq_error.mpr ⟨front, closing, later, next, .leave, rfl, reads,
    Alphabet.command?_closing other, Walk.apply_leave_nil outside⟩

/-- A word whose reading reaches its end is walked to its end, with as many poses
    saved as branches are open. -/
theorem reads_of_height {height : Nat} (valid : settings.check = .ok ())
    (defined : ∀ cause, word.segments angle settings alphabet ≠ .error (.arithmetic cause))
    (level : balance (alphabet.unwalked word) = some height) :
    ∃ last, Walk.Reads angle settings.scale alphabet (.initial settings) word last ∧
      last.saved.length = height := by
  cases drawn : word.segments angle settings alphabet with
  | ok drawing =>
    obtain ⟨-, last, reads, -⟩ := segments_eq_ok.mp drawn
    exact ⟨last, reads, Option.some.inj ((Walk.reads_height reads).symm.trans level)⟩
  | error fault =>
    have failed := drawn
    rw [segments_of_valid valid, Outcome.map_eq_error] at failed
    rcases Walk.run_fault failed with ⟨cause, rfl⟩ | ⟨count, rfl⟩
    · exact absurd drawn (defined cause)
    · have broken := (segments_unbalanced_iff valid defined).mp ⟨count, drawn⟩
      rw [level] at broken
      cases broken

/-- Closing brackets for branches that are open draw nothing. -/
theorem segments_closings {last : Walk} {count : Nat} (valid : settings.check = .ok ())
    (other : alphabet.walks closing = false)
    (reads : Walk.Reads angle settings.scale alphabet (.initial settings) word last)
    (enough : count ≤ last.saved.length) :
    segments (word ++ List.replicate count closing) angle settings alphabet = .ok last.segments := by
  obtain ⟨next, closes, drawn, -⟩ := Walk.reads_closings other enough
  have undrawn : next.segments = last.segments := by rw [Walk.segments, drawn, Walk.segments]
  exact segments_eq_ok.mpr ⟨valid, next, Walk.reads_append.mpr ⟨last, reads, closes⟩, undrawn⟩

/-- One closing bracket more than there are open branches fails. -/
theorem segments_closing_beyond {last : Walk} (valid : settings.check = .ok ())
    (other : alphabet.walks closing = false)
    (reads : Walk.Reads angle settings.scale alphabet (.initial settings) word last) :
    segments (word ++ List.replicate (last.saved.length + 1) closing) angle settings alphabet =
      .error (.unbalancedBranch (word.countP alphabet.draws)) := by
  obtain ⟨next, closes, drawn, total⟩ : ∃ next, Walk.Reads angle settings.scale alphabet last
      (List.replicate last.saved.length closing) next ∧ next.drawn = last.drawn ∧
        next.saved.length + last.saved.length = last.saved.length :=
    Walk.reads_closings other (Nat.le_refl _)
  have outside : next.saved = [] := List.eq_nil_of_length_eq_zero (by omega)
  have counted : next.drawn.length = word.countP alphabet.draws := by
    rw [drawn]
    simpa [Walk.initial] using Walk.reads_drawn_length reads
  rw [segments_of_valid valid, Outcome.map_eq_error, ← counted]
  exact Walk.run_eq_error.mpr ⟨word ++ List.replicate last.saved.length closing, closing, [], next, .leave,
    by rw [List.replicate_succ', List.append_assoc], Walk.reads_append.mpr ⟨last, reads, closes⟩,
    Alphabet.command?_closing other, Walk.apply_leave_nil outside⟩

/-- The turtle and the balance of a word agree. As long as every step has a place
    to go, a walk fails exactly for a word without a balance: at its first closing
    bracket too many, counting the segments drawn before it, whatever comes
    after. For a word with a balance that many branches are open at the end, so
    that many closing brackets more draw nothing and one beyond them fails. -/
theorem turtle_agrees_with_balance (word : Word) (angle : Float) (settings : Settings)
    (alphabet : Alphabet) (valid : settings.check = .ok ()) (spares : alphabet.SparesBrackets)
    (defined : ∀ cause, word.segments angle settings alphabet ≠ .error (.arithmetic cause)) :
    ((∃ drawn, word.segments angle settings alphabet = .error (.unbalancedBranch drawn)) ↔
        word.balance = none) ∧
      (word.balance = none → ∃ front rest : Word, word = front ++ closing :: rest ∧
        front.closings = front.openings ∧
        (∀ earlier : Word, earlier <+: front → earlier.closings ≤ earlier.openings) ∧
        (∃ drawing, front.segments angle settings alphabet = .ok drawing) ∧
        (∀ later, segments (front ++ closing :: later) angle settings alphabet =
          .error (.unbalancedBranch (front.countP alphabet.draws))) ∧
        (Fault.unbalancedBranch (front.countP alphabet.draws)).message =
          "']' encountered with empty branch stack after " ++
            toString (front.countP alphabet.draws) ++ " segments") ∧
      ∀ height, word.balance = some height →
        ∃ last, (Walk.initial settings).run angle settings.scale (alphabet.commands word) = .ok last ∧
          last.saved.length = height ∧
          word.segments angle settings alphabet = .ok last.segments ∧
          (∀ count, count ≤ height →
            segments (word ++ List.replicate count closing) angle settings alphabet =
              .ok last.segments) ∧
          segments (word ++ List.replicate (height + 1) closing) angle settings alphabet =
            .error (.unbalancedBranch (word.countP alphabet.draws)) := by
  have alike : ∀ some : Word, balance (alphabet.unwalked some) = some.balance :=
    spares.heightFrom_unwalked 0
  have fails := segments_unbalanced_iff valid defined
  rw [alike] at fails
  refine ⟨fails, fun broken => ?_, fun height balanced => ?_⟩
  · obtain ⟨drawn, failed⟩ := fails.mpr broken
    obtain ⟨front, rest, split, level, walked, stops⟩ := segments_unbalanced valid failed
    rw [alike] at level
    obtain ⟨earlier, total⟩ := balanced_iff.mp level
    exact ⟨front, rest, split, total, earlier, walked, stops, rfl⟩
  · rw [← alike] at balanced
    obtain ⟨last, reads, rfl⟩ := reads_of_height valid defined balanced
    exact ⟨last, Walk.run_eq_ok.mpr reads, rfl, segments_eq_ok.mpr ⟨valid, last, reads, rfl⟩,
      fun count enough => segments_closings valid spares.2 reads enough,
      segments_closing_beyond valid spares.2 reads⟩

/-- A word with a bracket too many after two segments, and one that leaves two
    branches open. -/
theorem turtle_agrees_beside_branches :
    Settings.check {} = .ok () ∧ Alphabet.SparesBrackets {} ∧
      (∀ cause, segments (ofText "F[+F]]-F") 25 {} {} ≠ .error (.arithmetic cause)) ∧
      (∃ drawn, segments (ofText "F[+F]]-F") 25 {} {} = .error (.unbalancedBranch drawn)) ∧
      (∀ cause, segments (ofText "F[X[-F") 25 {} {} ≠ .error (.arithmetic cause)) ∧
      segments (ofText "F[X[-F" ++ List.replicate 3 closing) 25 {} {} = .error (.unbalancedBranch 2) := by
  have valid : Settings.check {} = .ok () := by rfl
  have spares : Alphabet.SparesBrackets {} := by decide
  have broken : segments (ofText "F[+F]]-F") 25 {} {} = .error (.unbalancedBranch 2) := by rfl
  have brokenDefined : ∀ cause, segments (ofText "F[+F]]-F") 25 {} {} ≠ .error (.arithmetic cause) := by
    rw [broken]
    nofun
  obtain ⟨drawing, drawn⟩ : ∃ drawing, segments (ofText "F[X[-F") 25 {} {} = .ok drawing := ⟨_, rfl⟩
  have openDefined : ∀ cause, segments (ofText "F[X[-F") 25 {} {} ≠ .error (.arithmetic cause) := by
    rw [drawn]
    nofun
  obtain ⟨last, -, -, -, -, beyond⟩ :=
    (turtle_agrees_with_balance (ofText "F[X[-F") 25 {} {} valid spares openDefined).2.2 2 (by decide)
  exact ⟨valid, spares, brokenDefined,
    (turtle_agrees_with_balance _ 25 {} {} valid spares brokenDefined).1.mpr (by decide), openDefined,
    beyond⟩

end Word

/-! ## Expanded words -/

namespace Alphabet

variable {alphabet : Alphabet}

theorem count_unwalked_of_walked {symbol : Char} (walked : alphabet.walks symbol = true) (word : Word) :
    (alphabet.unwalked word).count symbol = 0 :=
  List.count_eq_zero.mpr (by simp [unwalked, walked])

theorem closing_mem_unwalked (other : alphabet.walks Word.closing = false) {word : Word} :
    Word.closing ∈ alphabet.unwalked word ↔ Word.closing ∈ word := by
  simp [unwalked, other]

/-- What an alphabet leaves of a balanced word breaks off only if it takes away
    the opening brackets and leaves some closing ones. -/
theorem balance_unwalked_eq_none {word : Word} (balanced : word.Balanced) :
    Word.balance (alphabet.unwalked word) = none ↔
      alphabet.walks Word.opening = true ∧ alphabet.walks Word.closing = false ∧
        Word.closing ∈ word := by
  cases walksClosing : alphabet.walks Word.closing with
  | true =>
    refine ⟨fun broken => ?_, fun ⟨_, other, _⟩ => nomatch other⟩
    obtain ⟨front, begins, more⟩ := Word.heightFrom_eq_none.mp broken
    have fewer : Word.closings front ≤ (alphabet.unwalked word).count Word.closing :=
      begins.sublist.count_le Word.closing
    rw [count_unwalked_of_walked walksClosing] at fewer
    omega
  | false =>
    cases walksOpening : alphabet.walks Word.opening with
    | true =>
      rw [← closing_mem_unwalked walksClosing, ← List.count_pos_iff]
      constructor
      · intro broken
        obtain ⟨front, begins, more⟩ := Word.heightFrom_eq_none.mp broken
        have fewer : Word.closings front ≤ (alphabet.unwalked word).count Word.closing :=
          begins.sublist.count_le Word.closing
        exact ⟨rfl, rfl, by omega⟩
      · rintro ⟨-, -, some⟩
        refine Word.heightFrom_eq_none.mpr ⟨alphabet.unwalked word, List.prefix_refl _, ?_⟩
        rw [Word.openings, count_unwalked_of_walked walksOpening]
        exact some
    | false =>
      have kept : Word.balance (alphabet.unwalked word) = some 0 :=
        (SparesBrackets.heightFrom_unwalked ⟨walksOpening, walksClosing⟩ 0 word).trans balanced
      simp [kept]

end Alphabet

namespace Grammar

/-- A grammar that is accepted although its turtle draws on the opening bracket
    and not on the closing one. -/
def drawnOpening : Grammar where
  name := "g"
  start := ['[', ']']
  rules := .empty
  angle := 90
  alphabet := ⟨[['[']], []⟩

/-- The checks of a grammar say nothing about its alphabet, so its words can
    still leave branches that the turtle never entered. -/
theorem accepted_word_can_be_unbalanced :
    ¬ ∀ (grammar : Grammar) (settings : Settings) (count : Nat) (word : Word),
      grammar.check = .ok () → settings.check = .ok () → grammar.expand count none = .ok word →
      (∀ cause, word.segments grammar.angle settings grammar.alphabet ≠ .error (.arithmetic cause)) →
      ∀ drawn, word.segments grammar.angle settings grammar.alphabet ≠ .error (.unbalancedBranch drawn) := by
  intro claim
  have failed : Word.segments ['[', ']'] drawnOpening.angle {} drawnOpening.alphabet =
      .error (.unbalancedBranch 1) := by rfl
  refine claim drawnOpening {} 0 ['[', ']'] rfl rfl rfl ?_ 1 failed
  rw [failed]
  nofun

/-- A word that an accepted grammar expands to leaves a branch that the turtle
    never entered only if the alphabet walks on the opening bracket and not on
    the closing one, and then at any closing bracket at all. -/
theorem accepted_word_unbalanced_iff {grammar : Grammar} {settings : Settings} {iterations : Json}
    {limit : Option Int} {word : Word} (accepted : grammar.check = .ok ())
    (valid : settings.check = .ok ()) (expanded : grammar.expandCounted iterations limit = .ok word)
    (defined : ∀ cause,
      word.segments grammar.angle settings grammar.alphabet ≠ .error (.arithmetic cause)) :
    (∃ drawn, word.segments grammar.angle settings grammar.alphabet = .error (.unbalancedBranch drawn)) ↔
      grammar.alphabet.walks Word.opening = true ∧ grammar.alphabet.walks Word.closing = false ∧
        Word.closing ∈ word := by
  have balanced : word.Balanced := (check_eq_ok.mp accepted).balanced_expansion expanded
  exact (Word.segments_unbalanced_iff valid defined).trans (Alphabet.balance_unwalked_eq_none balanced)

/-- A weed whose turtle moves on opening brackets, after one generation. -/
theorem accepted_weed_unbalanced :
    Grammar.check { Catalog.weed with alphabet := ⟨[['F']], [['[']]⟩ } = .ok () ∧
      Settings.check {} = .ok () ∧
      Grammar.expandCounted { Catalog.weed with alphabet := ⟨[['F']], [['[']]⟩ } (.int 1) none =
        .ok (Word.ofText "F[+X]F[-X]+X") ∧
      (∀ cause, Word.segments (Word.ofText "F[+X]F[-X]+X") 20 {} ⟨[['F']], [['[']]⟩ ≠
        .error (.arithmetic cause)) ∧
      ∃ drawn, Word.segments (Word.ofText "F[+X]F[-X]+X") 20 {} ⟨[['F']], [['[']]⟩ =
        .error (.unbalancedBranch drawn) := by
  have accepted : Grammar.check { Catalog.weed with alphabet := ⟨[['F']], [['[']]⟩ } = .ok () := by rfl
  have valid : Settings.check {} = .ok () := by rfl
  have expanded : Grammar.expandCounted { Catalog.weed with alphabet := ⟨[['F']], [['[']]⟩ } (.int 1) none =
      .ok (Word.ofText "F[+X]F[-X]+X") := by rfl
  have failed : Word.segments (Word.ofText "F[+X]F[-X]+X") 20 {} ⟨[['F']], [['[']]⟩ =
      .error (.unbalancedBranch 1) := by rfl
  have defined : ∀ cause, Word.segments (Word.ofText "F[+X]F[-X]+X") 20 {} ⟨[['F']], [['[']]⟩ ≠
      .error (.arithmetic cause) := by
    rw [failed]
    nofun
  exact ⟨accepted, valid, expanded, defined,
    (accepted_word_unbalanced_iff accepted valid expanded defined).mpr (by decide)⟩

end Grammar

end PlantDrawing
