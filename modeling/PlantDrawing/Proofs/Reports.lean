import PlantDrawing.CommandLine
import PlantDrawing.Proofs.Hull
import PlantDrawing.Proofs.Layers
import PlantDrawing.Proofs.OneLine

/-!
# Reports and drawings

A report measures the drawing that would be made of the same grammar, count and settings. It
fails where the drawing fails, with the same fault (`Report.make_eq_error`), and its numbers are
those of the drawing and its word (`Report.report_of_drawing`). The depths are counted off the
layers, so they name every depth that occurs and their numbers add up to all segments.
-/
namespace PlantDrawing

namespace Report

theorem boundsText_eq_empty {bounds : Bounds} : boundsText bounds = "empty" ↔ bounds = .empty := by
  cases bounds with
  | empty => exact ⟨fun _ => rfl, fun _ => rfl⟩
  | box box =>
    refine ⟨fun same => ?_, nofun⟩
    -- Between the sides there are blanks, and the word has none.
    have blank : ' ' ∈ (boundsText (.box box)).toList := by simp [boundsText]
    rw [same] at blank
    exact absurd blank (by decide)

/-! ## Making -/

variable {name : String} {iterations : Json} {settings : Settings} {limit : Option Int} {report : Report}
  {drawing : Drawing} {fault : Fault}

/-- A report fails where the drawing fails, and alike. -/
theorem make_eq_error (valid : settings.check = .ok ()) :
    make name iterations settings limit = .error fault ↔
      Drawing.make name iterations settings limit = .error fault := by
  refine Outcome.bind_error_congr fun grammar _ => ?_
  rw [valid]
  change _ ↔ (iterations.toIterations >>= fun count => grammar.expand count limit) >>= _ = .error fault
  rw [bind_assoc]
  refine Outcome.bind_error_congr fun count _ => Outcome.bind_error_congr fun word _ => ?_
  -- What a drawing is measured for cannot fail any more.
  rw [Outcome.bind_eq_error]
  exact or_iff_left (by simp)

/-- Where there is a drawing there is a report of it, and of the word it was drawn from. -/
theorem make_of_drawing (made : Drawing.make name iterations settings limit = .ok drawing) :
    ∃ grammar count word, Catalog.grammar name = .ok grammar ∧ iterations = .int (count : Nat) ∧
      grammar.expand count limit = .ok word ∧ drawing = .ofSegments drawing.segments ∧
      make name iterations settings limit = .ok (ofDrawing grammar count word drawing) := by
  obtain ⟨grammar, found, made⟩ := Outcome.bind_eq_ok.mp made
  obtain ⟨_, valid, made⟩ := Outcome.bind_eq_ok.mp made
  obtain ⟨word, expanded, drawn⟩ := Outcome.bind_eq_ok.mp made
  obtain ⟨count, counted, expanded⟩ := Outcome.bind_eq_ok.mp expanded
  have measured : make name iterations settings limit = .ok (ofDrawing grammar count word drawing) :=
    Outcome.bind_eq_ok.mpr ⟨grammar, found, Outcome.bind_eq_ok.mpr ⟨count, counted,
      Outcome.bind_eq_ok.mpr ⟨word, expanded, Outcome.bind_eq_ok.mpr ⟨drawing, drawn, rfl⟩⟩⟩⟩
  obtain ⟨segments, _, rfl⟩ := Outcome.map_eq_ok.mp drawn
  exact ⟨grammar, count, word, found, Json.toIterations_eq_ok.mp counted, expanded, rfl, measured⟩

end Report

/-! ## The command -/

namespace Command

/-- The command that measures a grammar prints the report of it, or fails and prints nothing. -/
theorem answer_validate {runtime : Runtime} {read : String → Except FileFault ByteArray} {freshSeed : Int} {given : Given}
    {grammar : Grammar} {settings : Settings} (named : Command.grammar given = .ok grammar)
    (set : Command.settings given = .ok settings) :
    answer runtime read freshSeed given .validate =
      match Report.make grammar.name (iterations grammar given) settings (some symbolLimit) with
      | .error fault => ⟨"", .error (.fault fault)⟩
      | .ok report => ⟨report.text, .ok none⟩ := by
  have measured : validate given =
      ((Report.make grammar.name (iterations grammar given) settings (some symbolLimit)).mapError .fault >>=
        fun report => .ok report.text) := by
    unfold validate
    rw [named, set]
    rfl
  rw [answer, measured]
  cases Report.make grammar.name (iterations grammar given) settings (some symbolLimit) with
  | error fault => rfl
  | ok report => rfl

end Command

namespace Report

/-- Under settings in order, the report on a grammar fails exactly where its drawing does, with
    the same fault, and then the command prints nothing. Otherwise what is printed tells the
    length of the expanded word, the number of segments of the drawing, the depths that occur in
    it from the shallowest on, each with its number of segments, and the bounds of the drawing
    to three places, which are empty exactly for a drawing without segments. -/
theorem report_of_drawing (name : String) (iterations : Json) (settings : Settings)
    (valid : settings.check = .ok ()) :
    (∀ fault, make name iterations settings (some Command.symbolLimit) = .error fault ↔
        Drawing.make name iterations settings (some Command.symbolLimit) = .error fault) ∧
      (∀ runtime read freshSeed given grammar, Command.grammar given = .ok grammar → grammar.name = name →
        Command.iterations grammar given = iterations → Command.settings given = .ok settings →
        Command.answer runtime read freshSeed given .validate =
          match make name iterations settings (some Command.symbolLimit) with
          | .error fault => ⟨"", .error (.fault fault)⟩
          | .ok report => ⟨report.text, .ok none⟩) ∧
      ∀ drawing, Drawing.make name iterations settings (some Command.symbolLimit) = .ok drawing →
        ∃ grammar count word report depths sides,
          Catalog.grammar name = .ok grammar ∧ iterations = .int (count : Nat) ∧
          grammar.expand count (some Command.symbolLimit) = .ok word ∧
          make name iterations settings (some Command.symbolLimit) = .ok report ∧
          report.text = "grammar: " ++ name ++ "\niterations: " ++ toString count ++
            "\nangle: " ++ Decimal.text grammar.angle 3 ++
            "\ngrowth factor: " ++ toString grammar.growthFactor ++
            "\nsymbols: " ++ toString word.length ++
            "\nsegments: " ++ toString drawing.segments.length ++
            "\ndepths: " ++ depthsText depths ++ "\nbounds: " ++ sides ++ "\n" ∧
          (depths.map Prod.fst).Pairwise (· < ·) ∧
          (∀ depth number, (depth, number) ∈ depths ↔
            0 < number ∧ number = drawing.segments.countP (·.depth = depth)) ∧
          (depths.map Prod.snd).sum = drawing.segments.length ∧
          (sides = "empty" ↔ drawing.segments = []) ∧
          (drawing.segments ≠ [] → ∃ box, drawing.bounds = .box box ∧
            sides = Decimal.text box.minX 3 ++ " " ++ Decimal.text box.minY 3 ++ " " ++
              Decimal.text box.maxX 3 ++ " " ++ Decimal.text box.maxY 3) := by
  refine ⟨fun fault => make_eq_error valid, ?_, ?_⟩
  · rintro runtime read freshSeed given grammar named rfl rfl set
    exact Command.answer_validate named set
  · intro drawing made
    obtain ⟨grammar, count, word, found, counted, expanded, bounded, measured⟩ := make_of_drawing made
    have same : grammar.name = name := (Catalog.grammar_eq_ok found).2
    have bounds : drawing.bounds = .ofSegments drawing.segments := congrArg Drawing.bounds bounded
    refine ⟨grammar, count, word, _, Layer.counts drawing.segments, boundsText drawing.bounds, found, counted,
      expanded, measured, ?_, Layer.counts_pairwise, fun depth number => Layer.mem_counts, Layer.sum_counts, ?_, ?_⟩
    · rw [← same]
      rfl
    · rw [boundsText_eq_empty, bounds, Bounds.ofSegments_eq_empty]
    · intro drawn
      cases bounded : drawing.bounds with
      | empty => exact absurd (Bounds.ofSegments_eq_empty.mp (bounds ▸ bounded)) drawn
      | box box => exact ⟨box, rfl, rfl⟩

/-- One generation of the weed has twelve symbols; there is no report on an oak. -/
theorem report_of_weed :
    Settings.check {} = .ok () ∧
      make "oak" (.int 1) {} (some Command.symbolLimit) = .error (.unknownGrammar "oak" Catalog.names) ∧
      ∃ drawing report depths sides,
        Drawing.make "weed" (.int 1) {} (some Command.symbolLimit) = .ok drawing ∧
        make "weed" (.int 1) {} (some Command.symbolLimit) = .ok report ∧
        report.text = "grammar: " ++ "weed" ++ "\niterations: " ++ toString 1 ++
          "\nangle: " ++ Decimal.text 20 3 ++ "\ngrowth factor: " ++ toString 12 ++
          "\nsymbols: " ++ toString 12 ++ "\nsegments: " ++ toString drawing.segments.length ++
          "\ndepths: " ++ depthsText depths ++ "\nbounds: " ++ sides ++ "\n" ∧
        (depths.map Prod.snd).sum = drawing.segments.length ∧
        (sides = "empty" ↔ drawing.segments = []) := by
  have valid : Settings.check {} = .ok () := by rfl
  obtain ⟨fails, -, -⟩ := report_of_drawing "oak" (.int 1) {} valid
  obtain ⟨-, -, measures⟩ := report_of_drawing "weed" (.int 1) {} valid
  obtain ⟨drawing, made⟩ : ∃ drawing, Drawing.make "weed" (.int 1) {} (some Command.symbolLimit) = .ok drawing :=
    ⟨_, rfl⟩
  obtain ⟨grammar, count, word, report, depths, sides, found, counted, expanded, measured, text, -, -, total,
    empty, -⟩ := measures drawing made
  obtain rfl : Catalog.weed = grammar := Except.ok.inj found
  obtain rfl : count = 1 := by
    have same := Json.int.inj counted
    omega
  obtain rfl : Word.ofText "F[+X]F[-X]+X" = word := Except.ok.inj expanded
  exact ⟨valid, (fails _).mpr rfl, drawing, report, depths, sides, made, measured, text, total, empty⟩

end Report

end PlantDrawing
