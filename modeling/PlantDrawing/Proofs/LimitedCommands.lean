import PlantDrawing.Proofs.Growth
import PlantDrawing.Proofs.Reports

/-!
# Limits on the built-in grammars

Every generation of every built-in grammar is longer than the one before, since each grammar has a
symbol that brings itself back along with others (`Catalog.growing_of_mem`). So a limit stops all
expansions by as many generations as it allows symbols, and the commands that draw and measure a
grammar, which have such a limit, come to an end for every number of iterations
(`Command.limit_stops_builtin`).
-/
namespace PlantDrawing

theorem Catalog.growing_of_mem {grammar : Grammar} (member : grammar ∈ grammars) : grammar.Growing := by
  -- Each grammar with the symbol that it never loses.
  rcases mem_grammars member with rfl | rfl | rfl | rfl | rfl | rfl | rfl
  · exact ⟨by decide, 'X', by decide⟩
  · exact ⟨by decide, 'F', by decide⟩
  · exact ⟨by decide, 'X', by decide⟩
  · exact ⟨by decide, 'F', by decide⟩
  · exact ⟨by decide, 'F', by decide⟩
  · exact ⟨by decide, 'F', by decide⟩
  · exact ⟨by decide, 'F', by decide⟩

namespace Command

variable {runtime : Runtime} {read : String → Except FileFault ByteArray} {freshSeed : Int} {given : Given}
  {grammar : Grammar} {settings : Settings} {fault : Fault} {number : Int}

/-- Settings that a command takes are in order. -/
theorem check_of_settings (set : Command.settings given = .ok settings) : settings.check = .ok () := by
  unfold Command.settings at set
  obtain ⟨preset, -, set⟩ := Outcome.bind_eq_ok.mp set
  obtain ⟨step, -, set⟩ := Outcome.bind_eq_ok.mp set
  obtain ⟨_, stepPositive, set⟩ := Outcome.bind_eq_ok.mp set
  obtain ⟨scale, -, set⟩ := Outcome.bind_eq_ok.mp set
  obtain ⟨_, scalePositive, set⟩ := Outcome.bind_eq_ok.mp set
  obtain ⟨stroke, -, set⟩ := Outcome.bind_eq_ok.mp set
  obtain ⟨_, -, set⟩ := Outcome.bind_eq_ok.mp set
  cases set
  exact Outcome.bind_eq_ok.mpr ⟨(), Outcome.mapError_eq_ok.mp stepPositive, Outcome.mapError_eq_ok.mp scalePositive⟩

theorem member_of_grammar (named : Command.grammar given = .ok grammar) : grammar ∈ Catalog.grammars := by
  obtain ⟨name, -, found⟩ := Outcome.bind_eq_ok.mp named
  exact (Catalog.grammar_eq_ok (Outcome.mapError_eq_ok.mp found)).1

/-- The commands that measure and draw the grammar asked for both fail with a fault and print
    nothing, unless the file of options has stopped the drawing before. -/
def Refuses (runtime : Runtime) (read : String → Except FileFault ByteArray) (freshSeed : Int) (given : Given)
    (fault : Fault) : Prop :=
  answer runtime read freshSeed given .validate = ⟨"", .error (.fault fault)⟩ ∧
    ∀ options, svgOptions runtime read given.options = .ok options →
      answer runtime read freshSeed given .render = ⟨"", .error (.fault fault)⟩

section
variable (named : Command.grammar given = .ok grammar) (set : Command.settings given = .ok settings)
include named set

/-- Both commands fail where the drawing does. -/
theorem refuses_of_make_error
    (failed : Drawing.make grammar.name (iterations grammar given) settings (some symbolLimit) = .error fault) :
    Refuses runtime read freshSeed given fault := by
  refine ⟨?_, fun options chosen => ?_⟩
  · rw [answer_validate named set, (Report.make_eq_error (check_of_settings set)).mpr failed]
  · have undrawn : drawingFile grammar.name (iterations grammar given) settings given.output options =
        .error (.fault fault) :=
      Outcome.bind_eq_error.mpr (.inl (Outcome.mapError_eq_error.mpr ⟨fault, failed, rfl⟩))
    have stopped : render runtime read given = .error (.fault fault) :=
      Outcome.bind_eq_error.mpr (.inr ⟨grammar, named, Outcome.bind_eq_error.mpr (.inr ⟨settings, set,
        Outcome.bind_eq_error.mpr (.inr ⟨options, chosen, undrawn⟩)⟩)⟩)
    rw [answer, stopped]
    rfl

variable (asked : given.iterations = .filled number)
include asked

theorem refuses_negative (negative : number < 0) :
    Refuses runtime read freshSeed given (.config (.negative "iterations")) := by
  refine refuses_of_make_error named set ?_
  refine Drawing.make_of_iterations_error (member_of_grammar named) rfl (check_of_settings set) ?_
  rw [iterations, asked, Json.toIterations, if_pos negative]

/-- For any other number they refuse no later than in the generation of the limit's number, or the
    number is smaller and the grammar is drawn and measured. -/
theorem refuses_or_draws (natural : 0 ≤ number) :
    (∃ generation : Nat, (generation : Int) ≤ number ∧ (generation : Int) ≤ symbolLimit ∧
        Refuses runtime read freshSeed given (.expansionLimit grammar.name symbolLimit generation number.toNat)) ∨
      number < symbolLimit ∧ ∃ drawing report,
        Drawing.make grammar.name (iterations grammar given) settings (some symbolLimit) = .ok drawing ∧
        Report.make grammar.name (iterations grammar given) settings (some symbolLimit) = .ok report ∧
        answer runtime read freshSeed given .validate = ⟨report.text, .ok none⟩ := by
  have member := member_of_grammar named
  have valid := check_of_settings set
  have positive : max 1 symbolLimit = symbolLimit := by decide
  obtain ⟨count, rfl⟩ := Int.eq_ofNat_of_zero_le natural
  have requested : iterations grammar given = .int count := by rw [iterations, asked]
  rcases (Catalog.growing_of_mem member).expand_stops count symbolLimit with
    ⟨generation, -, most, bounded, failed⟩ | ⟨few, word, expanded⟩
  · refine .inl ⟨generation, Int.ofNat_le.mpr most, positive ▸ bounded, refuses_of_make_error named set ?_⟩
    rw [requested]
    exact Drawing.make_of_expand_error member rfl valid failed
  · obtain ⟨segments, -, drawn⟩ := Drawing.make_of_expand_ok member rfl valid expanded
    rw [← requested] at drawn
    obtain ⟨_, _, _, -, -, -, -, measured⟩ := Report.make_of_drawing drawn
    refine .inr ⟨positive ▸ few, _, _, drawn, measured, ?_⟩
    rw [answer_validate named set, measured]

end

/-- In every built-in grammar each generation is longer than the one before. So a limit stops every
    expansion by at least as many generations as it allows symbols, and by at least one, and the
    fault names one of these generations. However many are asked for, no more words are built than
    that, and none has more symbols than the start word or the limit times the growth factor. So
    the commands that measure and draw a grammar come to an end for every number of iterations:
    they refuse a negative one; else they refuse in a generation no later than their limit, as they
    do for every number from the limit on, or they get a drawing and a report of it. -/
theorem limit_stops_builtin {grammar : Grammar} (member : grammar ∈ Catalog.grammars) :
    (∀ count, (grammar.rules.generation count grammar.start).length <
        (grammar.rules.generation (count + 1) grammar.start).length) ∧
      (∀ (bound : Int) (count : Nat), max 1 bound ≤ count →
        ∃ generation : Nat, 1 ≤ generation ∧ (generation : Int) ≤ max 1 bound ∧
          grammar.expandCounted (.int count) (some bound) =
            .error (.expansionLimit grammar.name bound generation count)) ∧
      (∀ (bound : Int) (count : Nat),
        (grammar.journal count (some bound)).outcome = grammar.expandCounted (.int count) (some bound) ∧
        ((grammar.journal count (some bound)).built.length : Int) ≤ max 1 bound ∧
        ∀ entry ∈ (grammar.journal count (some bound)).built,
          (entry.length : Int) ≤ max (grammar.start.length : Int) bound * grammar.growthFactor) ∧
      ∀ runtime read freshSeed given settings number, Command.grammar given = .ok grammar →
        Command.settings given = .ok settings → given.iterations = .filled number →
        (number < 0 → Refuses runtime read freshSeed given (.config (.negative "iterations"))) ∧
        (0 ≤ number →
          (∃ generation : Nat, (generation : Int) ≤ number ∧ (generation : Int) ≤ symbolLimit ∧
              Refuses runtime read freshSeed given (.expansionLimit grammar.name symbolLimit generation number.toNat)) ∨
            number < symbolLimit ∧ ∃ drawing report,
              Drawing.make grammar.name (iterations grammar given) settings (some symbolLimit) = .ok drawing ∧
              Report.make grammar.name (iterations grammar given) settings (some symbolLimit) = .ok report ∧
              answer runtime read freshSeed given .validate = ⟨report.text, .ok none⟩) := by
  have growing := Catalog.growing_of_mem member
  refine ⟨growing.length_lt, fun bound count many => ?_, fun bound count => ⟨Grammar.journal_outcome, ?_, ?_⟩, ?_⟩
  · rcases growing.expand_stops count bound with ⟨generation, least, -, most, failed⟩ | ⟨few, -⟩
    · exact ⟨generation, least, most, Grammar.expandCounted_count.trans failed⟩
    · exact absurd many (Int.not_le.mpr few)
  · exact growing.length_built_le count bound
  · exact fun entry built => Grammar.length_of_journal built
  · intro runtime read freshSeed given settings number named set asked
    exact ⟨refuses_negative named set asked, refuses_or_draws named set asked⟩

/-- A dragon of a million million generations is refused. -/
theorem limit_stops_dragon :
    Catalog.dragon ∈ Catalog.grammars ∧
      (∃ generation : Nat, 1 ≤ generation ∧ (generation : Int) ≤ 100 ∧
        Catalog.dragon.expandCounted (.int (1000000000000 : Nat)) (some 100) =
          .error (.expansionLimit "dragon" 100 generation 1000000000000)) ∧
      ∃ generation : Nat, (generation : Int) ≤ symbolLimit ∧
        answer .usual (fun path => .error ⟨.missing, path⟩) 0
            { grammar := .filled "dragon", output := .filled "out.svg", iterations := .filled 1000000000000 } .render =
          ⟨"", .error (.fault (.expansionLimit "dragon" symbolLimit generation 1000000000000))⟩ := by
  have member : Catalog.dragon ∈ Catalog.grammars := by simp [Catalog.grammars]
  obtain ⟨-, stops, -, commands⟩ := limit_stops_builtin member
  obtain ⟨-, ends⟩ := commands .usual (fun path => .error ⟨.missing, path⟩) 0
    { grammar := .filled "dragon", output := .filled "out.svg", iterations := .filled 1000000000000 } ⟨10, 1, 1⟩
    1000000000000 rfl rfl rfl
  refine ⟨member, stops 100 1000000000000 (by decide), ?_⟩
  rcases ends (by decide) with ⟨generation, -, most, -, refused⟩ | ⟨few, -⟩
  · exact ⟨generation, most, refused {} rfl⟩
  · exact absurd few (by decide)

end Command

end PlantDrawing
