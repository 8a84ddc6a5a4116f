import PlantDrawing.Drawing
import PlantDrawing.Proofs.Headings
import PlantDrawing.Proofs.Limits

/-!
# Outcomes of drawings

From the name of a built-in grammar to its drawing there are three places to fail:
the name, the settings together with the count of iterations, and the limit. They
are met in this order, and past them a drawing is always made
(`Drawing.make_outcome`): the built-in grammars are balanced in every generation and
turn by moderate angles, so neither a bracket nor a heading can stop the turtle.
-/
namespace PlantDrawing

namespace Settings

variable {settings : Settings}

theorem check_eq_ok : settings.check = .ok () ↔ 0 < settings.step ∧ 0 < settings.scale := by
  unfold check checkPositive
  by_cases step : 0 < settings.step
  · by_cases scale : 0 < settings.scale
    · simp [step, scale, Bind.bind, Except.bind]
    · simp [step, scale, Bind.bind, Except.bind]
  · simp [step, Bind.bind, Except.bind]

theorem check_eq_error {fault : Fault} (failed : settings.check = .error fault) :
    ∃ cause, fault = .config cause := by
  unfold check checkPositive at failed
  by_cases step : 0 < settings.step
  · by_cases scale : 0 < settings.scale
    · simp [step, scale, Bind.bind, Except.bind] at failed
    · simp only [step, scale, Bind.bind, Except.bind, if_true, if_false] at failed
      cases failed
      exact ⟨_, rfl⟩
  · simp only [step, Bind.bind, Except.bind, if_false] at failed
    cases failed
    exact ⟨_, rfl⟩

end Settings

namespace Json

variable {iterations : Json}

theorem toIterations_eq_ok {count : Nat} : iterations.toIterations = .ok count ↔ iterations = .int count := by
  unfold toIterations
  split
  · rename_i number
    by_cases negative : number < 0
    · simp only [negative, if_true, reduceCtorEq, int.injEq, false_iff]
      omega
    · simp only [negative, if_false, Except.ok.injEq, int.injEq]
      omega
  · rename_i other
    simp only [reduceCtorEq, false_iff]
    exact other count

theorem toIterations_eq_error {fault : Fault} (failed : iterations.toIterations = .error fault) :
    ∃ cause, fault = .config cause := by
  unfold toIterations at failed
  split at failed
  · split at failed
    · cases failed
      exact ⟨_, rfl⟩
    · cases failed
  · cases failed
    exact ⟨_, rfl⟩

end Json

/-! ## The catalog -/

namespace Catalog

variable {name : String} {grammar : Grammar}

theorem mem_grammars (member : grammar ∈ grammars) :
    grammar = plant ∨ grammar = bush ∨ grammar = weed ∨ grammar = twig ∨ grammar = koch ∨
      grammar = sierpinski ∨ grammar = dragon := by
  simpa [grammars] using member

theorem check_of_mem (member : grammar ∈ grammars) : grammar.check = .ok () := by
  rcases mem_grammars member with rfl | rfl | rfl | rfl | rfl | rfl | rfl <;> rfl

theorem moderate_of_mem (member : grammar ∈ grammars) : ModerateAngle grammar.angle := by
  rcases mem_grammars member with rfl | rfl | rfl | rfl | rfl | rfl | rfl <;> decide

theorem spares_of_mem (member : grammar ∈ grammars) : grammar.alphabet.SparesBrackets := by
  rcases mem_grammars member with rfl | rfl | rfl | rfl | rfl | rfl | rfl <;> decide

theorem grammar_of_mem (member : grammar ∈ grammars) (named : grammar.name = name) :
    Catalog.grammar name = .ok grammar := by
  subst named
  rcases mem_grammars member with rfl | rfl | rfl | rfl | rfl | rfl | rfl <;> rfl

/-- Each name is that of a built-in grammar. -/
theorem grammar_of_name (listed : name ∈ names) :
    ∃ builtin, Catalog.grammar name = .ok builtin ∧ builtin.name = name := by
  obtain ⟨builtin, member, named⟩ := List.mem_map.mp ((List.isPerm_iff.mp names_perm).mem_iff.mp listed)
  exact ⟨builtin, grammar_of_mem member named, named⟩

theorem grammar_of_unlisted (unlisted : ∀ grammar ∈ grammars, grammar.name ≠ name) :
    Catalog.grammar name = .error (.unknownGrammar name names) := by
  have none : grammar? name = none := by
    rw [grammar?, List.find?_eq_none]
    intro grammar member
    simpa using unlisted grammar member
  rw [Catalog.grammar, none]

/-- Every generation of a built-in grammar is drawn, under any settings in order. -/
theorem generation_drawn {settings : Settings} (member : grammar ∈ grammars)
    (valid : settings.check = .ok ()) (count : Nat) :
    ∃ segments, Word.segments (grammar.rules.generation count grammar.start) grammar.angle settings
      grammar.alphabet = .ok segments := by
  have accepted := Grammar.check_eq_ok.mp (check_of_mem member)
  have balanced : Word.Balanced (grammar.rules.generation count grammar.start) :=
    (Rules.heightFrom_generation accepted.rules 0 count grammar.start).trans accepted.balanced
  exact Word.segments_of_balanced valid (spares_of_mem member) (moderate_of_mem member) balanced

end Catalog

/-! ## Drawings -/

namespace Drawing

variable {name : String} {grammar : Grammar} {iterations : Json} {settings : Settings}
  {limit : Option Int} {count : Nat} {fault : Fault}

theorem make_of_unlisted (unlisted : ∀ grammar ∈ Catalog.grammars, grammar.name ≠ name) :
    make name iterations settings limit = .error (.unknownGrammar name Catalog.names) := by
  rw [make, Catalog.grammar_of_unlisted unlisted]
  rfl

section
variable (member : grammar ∈ Catalog.grammars) (named : grammar.name = name)
include member named

theorem make_of_check_error (failed : settings.check = .error fault) :
    make name iterations settings limit = .error fault := by
  rw [make, Catalog.grammar_of_mem member named, failed]
  rfl

variable (valid : settings.check = .ok ())
include valid

theorem make_of_valid :
    make name iterations settings limit =
      (grammar.expandCounted iterations limit >>= fun word => ofWord grammar word settings) := by
  rw [make, Catalog.grammar_of_mem member named, valid]
  rfl

theorem make_of_iterations_error (failed : iterations.toIterations = .error fault) :
    make name iterations settings limit = .error fault := by
  rw [make_of_valid member named valid, Grammar.expandCounted, failed]
  rfl

theorem make_of_count :
    make name (.int count) settings limit =
      (grammar.expand count limit >>= fun word => ofWord grammar word settings) := by
  rw [make_of_valid member named valid, Grammar.expandCounted, Json.toIterations_eq_ok.mpr rfl]
  rfl

theorem make_of_expand_error (failed : grammar.expand count limit = .error fault) :
    make name (.int count) settings limit = .error fault := by
  rw [make_of_count member named valid, failed]
  rfl

theorem make_of_expand_ok {word : Word} (expanded : grammar.expand count limit = .ok word) :
    ∃ segments, word.segments grammar.angle settings grammar.alphabet = .ok segments ∧
      make name (.int count) settings limit = .ok ⟨segments, .ofSegments segments⟩ := by
  obtain ⟨rfl, -⟩ := Grammar.expand_eq_ok.mp expanded
  obtain ⟨segments, drawn⟩ := Catalog.generation_drawn member valid count
  refine ⟨segments, drawn, ?_⟩
  rw [make_of_count member named valid, expanded]
  exact Outcome.map_eq_ok.mpr ⟨segments, drawn, rfl⟩

end

/-- Past the name a drawing fails at the settings, else at the count of iterations,
    else at the expansion. -/
theorem make_eq_error_cases (member : grammar ∈ Catalog.grammars) (named : grammar.name = name)
    (failed : make name iterations settings limit = .error fault) :
    settings.check = .error fault ∨
      settings.check = .ok () ∧
        (iterations.toIterations = .error fault ∨
          ∃ count : Nat, iterations = .int count ∧ grammar.expand count limit = .error fault) := by
  cases checked : settings.check with
  | error other =>
    rw [make_of_check_error member named checked] at failed
    cases failed
    exact .inl rfl
  | ok _ =>
    refine .inr ⟨rfl, ?_⟩
    cases counted : iterations.toIterations with
    | error other =>
      rw [make_of_iterations_error member named checked counted] at failed
      cases failed
      exact .inl rfl
    | ok count =>
      have isCount := Json.toIterations_eq_ok.mp counted
      subst isCount
      refine .inr ⟨count, rfl, ?_⟩
      cases expanded : grammar.expand count limit with
      | ok word =>
        obtain ⟨segments, -, made⟩ := make_of_expand_ok member named checked expanded
        rw [made] at failed
        cases failed
      | error other =>
        rw [make_of_expand_error member named checked expanded] at failed
        cases failed
        rfl

theorem make_unknown_iff :
    make name iterations settings limit = .error (.unknownGrammar name Catalog.names) ↔
      ∀ grammar ∈ Catalog.grammars, grammar.name ≠ name := by
  constructor
  · intro failed grammar member named
    rcases make_eq_error_cases member named failed with
      unchecked | ⟨-, uncounted | ⟨count, -, beyond⟩⟩
    · obtain ⟨cause, same⟩ := Settings.check_eq_error unchecked
      cases same
    · obtain ⟨cause, same⟩ := Json.toIterations_eq_error uncounted
      cases same
    · obtain ⟨bound, later, -, -, -, same, -⟩ := Grammar.expand_eq_error.mp beyond
      cases same
  · exact make_of_unlisted

theorem make_config_iff (member : grammar ∈ Catalog.grammars) (named : grammar.name = name) :
    (∃ cause, make name iterations settings limit = .error (.config cause)) ↔
      ¬ (0 < settings.step ∧ 0 < settings.scale) ∨ ¬ ∃ count : Nat, iterations = .int count := by
  constructor
  · rintro ⟨cause, failed⟩
    rcases make_eq_error_cases member named failed with
      unchecked | ⟨-, uncounted | ⟨count, -, beyond⟩⟩
    · refine .inl fun positive => ?_
      rw [Settings.check_eq_ok.mpr positive] at unchecked
      cases unchecked
    · refine .inr ?_
      rintro ⟨count, isCount⟩
      rw [Json.toIterations_eq_ok.mpr isCount] at uncounted
      cases uncounted
    · obtain ⟨bound, later, -, -, -, same, -⟩ := Grammar.expand_eq_error.mp beyond
      cases same
  · intro unsound
    cases checked : settings.check with
    | error fault =>
      obtain ⟨cause, rfl⟩ := Settings.check_eq_error checked
      exact ⟨cause, make_of_check_error member named checked⟩
    | ok _ =>
      cases counted : iterations.toIterations with
      | error fault =>
        obtain ⟨cause, rfl⟩ := Json.toIterations_eq_error counted
        exact ⟨cause, make_of_iterations_error member named checked counted⟩
      | ok count =>
        rcases unsound with invalid | uncounted
        · exact absurd (Settings.check_eq_ok.mp checked) invalid
        · exact absurd ⟨count, Json.toIterations_eq_ok.mp counted⟩ uncounted

section
variable (member : grammar ∈ Catalog.grammars) (named : grammar.name = name)
  (valid : settings.check = .ok ())
include member named valid

theorem make_limit_iff :
    (∃ bound generation,
        make name (.int count) settings limit = .error (.expansionLimit name bound generation count)) ↔
      ∃ generation, 1 ≤ generation ∧ generation ≤ count ∧
        (grammar.rules.generation generation grammar.start).Exceeds limit := by
  constructor
  · rintro ⟨bound, generation, failed⟩
    rcases make_eq_error_cases member named failed with
      unchecked | ⟨-, uncounted | ⟨other, same, beyond⟩⟩
    · rw [valid] at unchecked
      cases unchecked
    · rw [Json.toIterations_eq_ok.mpr rfl] at uncounted
      cases uncounted
    · have alike : count = other := by
        have equal := Json.int.inj same
        omega
      subst alike
      obtain ⟨bound', later, limited, least, most, -, more, -⟩ := Grammar.expand_eq_error.mp beyond
      exact ⟨later, least, most, bound', limited, more⟩
  · rintro ⟨generation, least, most, exceeds⟩
    cases expanded : grammar.expand count limit with
    | ok word => exact absurd exceeds ((Grammar.expand_eq_ok.mp expanded).2 generation least most)
    | error fault =>
      obtain ⟨bound, later, -, -, -, rfl, -⟩ := Grammar.expand_eq_error.mp expanded
      rw [named] at expanded
      exact ⟨bound, later, make_of_expand_error member named valid expanded⟩

theorem make_within_limit
    (within : ¬ ∃ generation, 1 ≤ generation ∧ generation ≤ count ∧
      (grammar.rules.generation generation grammar.start).Exceeds limit) :
    ∃ word segments, grammar.expand count none = .ok word ∧
      word.segments grammar.angle settings grammar.alphabet = .ok segments ∧
      make name (.int count) settings limit = .ok ⟨segments, .ofSegments segments⟩ := by
  have expanded : grammar.expand count limit = .ok (grammar.rules.generation count grammar.start) := by
    refine Grammar.expand_eq_ok.mpr ⟨rfl, ?_⟩
    intro later least most exceeds
    exact within ⟨later, least, most, exceeds⟩
  obtain ⟨segments, drawn, made⟩ := make_of_expand_ok member named valid expanded
  exact ⟨_, segments, Grammar.expand_unlimited, drawn, made⟩

end

/-- A drawing fails for a name that is not in the catalog; else for settings that
    are not in order and, after them, for iterations that are no count; else for a
    generation with more symbols than the limit allows. In every other case it is
    the drawing of the unlimited expansion, with the bounds of its segments. -/
theorem make_outcome (name : String) (iterations : Json) (settings : Settings) (limit : Option Int) :
    (make name iterations settings limit = .error (.unknownGrammar name Catalog.names) ↔
        ∀ grammar ∈ Catalog.grammars, grammar.name ≠ name) ∧
      ∀ grammar ∈ Catalog.grammars, grammar.name = name →
        ((∃ cause, make name iterations settings limit = .error (.config cause)) ↔
            ¬ (0 < settings.step ∧ 0 < settings.scale) ∨ ¬ ∃ count : Nat, iterations = .int count) ∧
          (∀ fault, settings.check = .error fault → make name iterations settings limit = .error fault) ∧
          ∀ count : Nat, 0 < settings.step ∧ 0 < settings.scale → iterations = .int count →
            ((∃ bound generation,
                make name iterations settings limit =
                  .error (.expansionLimit name bound generation count)) ↔
              ∃ generation, 1 ≤ generation ∧ generation ≤ count ∧
                (grammar.rules.generation generation grammar.start).Exceeds limit) ∧
            ((¬ ∃ generation, 1 ≤ generation ∧ generation ≤ count ∧
                (grammar.rules.generation generation grammar.start).Exceeds limit) →
              ∃ word segments, grammar.expand count none = .ok word ∧
                word.segments grammar.angle settings grammar.alphabet = .ok segments ∧
                make name iterations settings limit = .ok ⟨segments, .ofSegments segments⟩) := by
  refine ⟨make_unknown_iff, ?_⟩
  intro grammar member named
  refine ⟨make_config_iff member named, fun fault failed => make_of_check_error member named failed, ?_⟩
  rintro count positive rfl
  have valid := Settings.check_eq_ok.mpr positive
  exact ⟨make_limit_iff member named valid, make_within_limit member named valid⟩

/-- A weed of at most twenty symbols: one generation is drawn and two are not. -/
theorem make_weed_under_limit :
    Catalog.weed ∈ Catalog.grammars ∧ Catalog.weed.name = "weed" ∧
      (0 < (10 : Float) ∧ 0 < (0.7 : Float)) ∧
      (∃ word segments, Catalog.weed.expand 1 none = .ok word ∧
        word.segments 20 ⟨10, 0.7, 2⟩ {} = .ok segments ∧
        make "weed" (.int 1) ⟨10, 0.7, 2⟩ (some 20) = .ok ⟨segments, .ofSegments segments⟩) ∧
      ∃ bound generation, make "weed" (.int 2) ⟨10, 0.7, 2⟩ (some 20) =
        .error (.expansionLimit "weed" bound generation 2) := by
  have member : Catalog.weed ∈ Catalog.grammars := by simp [Catalog.grammars]
  have positive : 0 < (10 : Float) ∧ 0 < (0.7 : Float) := by decide
  have within : ¬ ∃ generation, 1 ≤ generation ∧ generation ≤ 1 ∧
      Word.Exceeds (Catalog.weed.rules.generation generation Catalog.weed.start) (some 20) := by
    rintro ⟨generation, least, most, bound, limited, more⟩
    have first : generation = 1 := by omega
    subst first
    cases limited
    exact absurd more (by decide)
  have beyond : ∃ generation, 1 ≤ generation ∧ generation ≤ 2 ∧
      Word.Exceeds (Catalog.weed.rules.generation generation Catalog.weed.start) (some 20) :=
    ⟨2, by decide, by decide, 20, rfl, by decide⟩
  refine ⟨member, rfl, positive, ?_, ?_⟩
  · obtain ⟨-, -, counted⟩ :=
      (make_outcome "weed" (.int 1) ⟨10, 0.7, 2⟩ (some 20)).2 Catalog.weed member rfl
    exact (counted 1 positive rfl).2 within
  · obtain ⟨-, -, counted⟩ :=
      (make_outcome "weed" (.int 2) ⟨10, 0.7, 2⟩ (some 20)).2 Catalog.weed member rfl
    exact (counted 2 positive rfl).1.mpr beyond

end Drawing

end PlantDrawing
