import Mathlib.Data.List.GetD
import PlantDrawing.Proofs.ArgumentTexts

/-!
# Random pictures, drawn again

The line that a random run prints names a built-in grammar, a count and named settings. No
name holds a blank, so nothing else can be read from the line (`announcement_injective`), and
asking for these three draws the same picture: the two runs differ in nothing but the line
(`CommandLine.render_of_random`).
-/
namespace PlantDrawing

variable {grammar iterations preset output seed : String} {file : Option String} {pick : RandomPick}
  {runtime : Runtime} {read : String → Except FileFault ByteArray} {freshSeed : Int} {given : Given}

/-! ## What is picked -/

theorem Twister.below_lt {bound : Nat} (positive : 0 < bound) (twister : Twister) : (twister.below bound).1 < bound :=
  drawBelow_lt positive (bound.log2 + 1) manyAttempts twister

theorem Twister.choose_mem {α : Type} {items : List α} (filled : items ≠ []) (default : α) (twister : Twister) :
    (twister.choose items default).1 ∈ items := by
  have within : (twister.below items.length).1 < items.length := below_lt (List.length_pos_iff.mpr filled) twister
  rw [choose]
  dsimp only
  rw [List.getD_eq_getElem _ _ within]
  exact List.getElem_mem within

namespace RandomPick

/-- A built-in grammar, few iterations and named settings. -/
structure Listed (pick : RandomPick) : Prop where
  grammar : pick.grammar ∈ Catalog.names
  few : pick.iterations ≤ 12
  preset : pick.preset ∈ Catalog.presets.map (·.1)

theorem choose_listed (twister : Twister) : (choose twister).1.Listed := by
  have names : Catalog.names ≠ [] := List.cons_ne_nil _ _
  have presets : Catalog.presets.map (·.1) ≠ [] := List.cons_ne_nil _ _
  have counts : ∀ name ∈ Catalog.names, 0 < mostIterations name ∧ mostIterations name ≤ 12 := by decide
  have named := Twister.choose_mem names "" twister
  obtain ⟨positive, most⟩ := counts _ named
  rw [choose]
  dsimp only
  exact ⟨named, Nat.le_trans (Twister.below_lt positive _) most, Twister.choose_mem presets "" _⟩

/-- The count of a pick has no more digits than any runtime reads. -/
theorem Listed.digits (listed : pick.Listed) (runtime : Runtime) :
    (Nat.toDigits 10 (pick.iterations : Int).natAbs).length ≤ runtime.digits := by
  have short : ∀ n ≤ 12, (Nat.toDigits 10 n).length ≤ 640 := by decide
  exact Nat.le_trans (short _ listed.few) runtime.digitsAllowed

/-- What the arguments give that ask for a pick. -/
def toGiven (pick : RandomPick) (output : String) (file : Option String) : Given where
  grammar := .filled pick.grammar
  output := .filled output
  iterations := .filled pick.iterations
  preset := .filled pick.preset
  options := optionsSlot file

end RandomPick

/-! ## The line -/

/-- The line that names what is drawn. -/
def announcement (grammar iterations preset : String) : String :=
  grammar ++ " n=" ++ iterations ++ " preset=" ++ preset ++ "\n"

theorem announcement_toList (grammar iterations preset : String) :
    (announcement grammar iterations preset).toList =
      [' '].intercalate
        [grammar.toList, "n=".toList ++ iterations.toList, "preset=".toList ++ preset.toList ++ ['\n']] := by
  simp [announcement, String.toList_append, List.intercalate]

theorem count_announcement (grammar iterations preset : String) :
    (announcement grammar iterations preset).toList.count ' ' =
      grammar.toList.count ' ' + iterations.toList.count ' ' + preset.toList.count ' ' + 2 := by
  simp [announcement, String.toList_append, List.count_append]
  omega

theorem announcement_ne_empty : announcement grammar iterations preset ≠ "" := by
  intro empty
  have counts := congrArg (fun line : String => line.toList.count ' ') empty
  simp only [count_announcement] at counts
  exact absurd counts (Nat.succ_ne_zero _)

theorem splitOn_announcement (blankless : ∀ text ∈ [grammar, iterations, preset], ' ' ∉ text.toList) :
    (announcement grammar iterations preset).toList.splitOn ' ' =
      [grammar.toList, "n=".toList ++ iterations.toList, "preset=".toList ++ preset.toList ++ ['\n']] := by
  rw [announcement_toList, List.splitOn_intercalate]
  · simpa using blankless
  · exact List.cons_ne_nil _ _

/-- Three texts without blanks are all that their line can name. -/
theorem announcement_injective {grammar' iterations' preset' : String}
    (blankless : ∀ text ∈ [grammar, iterations, preset], ' ' ∉ text.toList)
    (same : announcement grammar iterations preset = announcement grammar' iterations' preset') :
    grammar = grammar' ∧ iterations = iterations' ∧ preset = preset' := by
  -- The line has two blanks, so the other three texts hold none.
  have blankless' : ∀ text ∈ [grammar', iterations', preset'], ' ' ∉ text.toList := by
    have counts := congrArg (fun line : String => line.toList.count ' ') same
    simp only [count_announcement] at counts
    simp only [List.forall_mem_cons, ← List.count_eq_zero] at blankless ⊢
    obtain ⟨first, second, third, -⟩ := blankless
    refine ⟨by omega, by omega, by omega, by simp⟩
  have parts := congrArg (fun line : String => line.toList.splitOn ' ') same
  simp only [splitOn_announcement blankless, splitOn_announcement blankless', List.cons.injEq,
    List.append_cancel_left_eq, List.append_cancel_right_eq, String.toList_inj, and_true] at parts
  exact parts

theorem pickLine_injective (listed : pick.Listed)
    (line : Command.pickLine pick = announcement grammar iterations preset) :
    pick.grammar = grammar ∧ toString pick.iterations = iterations ∧ pick.preset = preset := by
  refine announcement_injective ?_ line
  have names : ∀ name ∈ Catalog.names, ' ' ∉ name.toList := by decide
  have presets : ∀ name ∈ Catalog.presets.map (·.1), ' ' ∉ name.toList := by decide
  have digits : ' ' ∉ (toString pick.iterations).toList := by
    rw [Nat.toString_eq_ofList_toDigits, String.toList_ofList]
    intro member
    exact absurd (Decimal.isDigit_of_mem_toDigits member) (by decide)
  simp only [List.forall_mem_cons, List.not_mem_nil, false_implies, implies_true, and_true]
  exact ⟨names _ listed.grammar, digits, presets _ listed.preset⟩

/-! ## Asking for a picture -/

/-- The arguments of a random run with a seed. -/
def randomArguments (output seed : String) (file : Option String) : List String :=
  ["random", output, "--seed", seed] ++ optionsArguments file

/-- The arguments that ask for the picture of a line. -/
def renderArguments (grammar iterations preset output : String) (file : Option String) : List String :=
  ["render", grammar, output, "-n", iterations, "--preset", preset] ++ optionsArguments file

theorem read_random (outputPlain : Undashed output) (arguments : List String) :
    CommandName.random.read runtime (output :: "--seed" :: arguments) =
      Token.classifyAll CommandName.random.options arguments >>= fun tokens =>
        readTokens runtime CommandName.random.options { output := .filled output } [] [] .placedWord
          (.option .seed .nothing :: tokens) := by
  have known : Token.classify CommandName.random.options "--seed" = .ok (.option .seed .nothing) := rfl
  rw [CommandName.read, Token.classifyAll_word (Token.classify_undashed outputPlain), Token.classifyAll_option known,
    ← @Undashed.wordOf _ .other outputPlain]
  cases Token.classifyAll CommandName.random.options arguments <;> rfl

/-- A random run is misused, or its seed is whatever the text for it comes to. -/
theorem ofArguments_random (outputPlain : Undashed output) (filePlain : ∀ path ∈ file, Undashed path) :
    (∃ fault, Request.ofArguments runtime (randomArguments output seed file) = .error fault) ∨
      ∃ slot, Request.ofArguments runtime (randomArguments output seed file) =
        .ok (.run .random { output := .filled output, seed := slot, options := optionsSlot file }) := by
  have asked : Request.ofArguments runtime (randomArguments output seed file) =
      requestOf runtime [] .random (output :: "--seed" :: seed :: optionsArguments file) := ofArguments_command .random
  rw [asked, requestOf, read_random outputPlain]
  cases classified : Token.classifyAll CommandName.random.options (seed :: optionsArguments file) with
  | error misuse => exact .inl ⟨⟨some .random, misuse⟩, rfl⟩
  | ok tokens =>
    -- Only a word can be the value of the seed.
    cases tokens with
    | nil => exact .inl ⟨_, rfl⟩
    | cons token rest =>
      cases token with
      | separator | option _ _ | unknown _ => exact .inl ⟨_, rfl⟩
      | word text =>
        have following := Token.classifyAll_of_word classified
        rw [classifyAll_optionsArguments filePlain rfl] at following
        cases following
        change (∃ fault, ((readTokens _ _ _ _ _ _ _).mapError _ >>= _) = _) ∨
          ∃ slot, ((readTokens _ _ _ _ _ _ _).mapError _ >>= _) = _
        cases filled : Given.set { output := .filled output } runtime .seed text with
        | error misuse =>
          refine .inl ⟨⟨some .random, misuse⟩, ?_⟩
          rw [readTokens, filled]
          · rfl
          · simp
        | ok given =>
          obtain ⟨slot, -, rfl⟩ := Outcome.map_eq_ok.mp filled
          refine .inr ⟨slot, ?_⟩
          rw [Given.readTokens_set filled (by decide), readTokens_optionsTokens filePlain rfl]
          rfl

/-- Each whole number of not too many digits is a seed, a negative one too. -/
theorem ofArguments_random_int (outputPlain : Undashed output) (filePlain : ∀ path ∈ file, Undashed path)
    (n : Int) (few : (Nat.toDigits 10 n.natAbs).length ≤ runtime.digits) :
    Request.ofArguments runtime (randomArguments output (toString n) file) =
      .ok (.run .random { output := .filled output, seed := .filled n, options := optionsSlot file }) := by
  have seeded (given : Given) : given.set runtime .seed (toString n) = .ok { given with seed := .filled n } :=
    congrArg (Except.map _) (Given.slot_toInteger .seed n few)
  refine (ofArguments_command .random).trans (requestOf_complete ?_)
  refine (read_random outputPlain (toString n :: optionsArguments file)).trans ?_
  rw [Token.classifyAll_word (Token.classify_int n), classifyAll_optionsArguments filePlain rfl]
  refine Eq.trans (Given.readTokens_set (seeded _) (by decide)) ?_
  exact readTokens_optionsTokens filePlain rfl

/-- What the line of a pick names can be asked for. -/
theorem ofArguments_render (listed : pick.Listed) (outputPlain : Undashed output)
    (filePlain : ∀ path ∈ file, Undashed path) :
    Request.ofArguments runtime (renderArguments pick.grammar (toString pick.iterations) pick.preset output file) =
      .ok (.run .render (pick.toGiven output file)) := by
  let options := CommandName.render.options
  have names : ∀ name ∈ Catalog.names, Undashed name := by decide
  have presets : ∀ name ∈ Catalog.presets.map (·.1), Undashed name := by decide
  have grammarPlain := names _ listed.grammar
  have presetPlain := presets _ listed.preset
  have line : Token.classifyAll options (pick.grammar :: output :: "-n" :: toString pick.iterations :: "--preset" ::
      pick.preset :: optionsArguments file) =
      .ok (.word pick.grammar :: .word output :: .option .iterations .nothing :: .word (toString pick.iterations) ::
        .option .preset .nothing :: .word pick.preset :: optionsTokens file) := by
    have count : Token.classify options "-n" = .ok (.option .iterations .nothing) := rfl
    have settings : Token.classify options "--preset" = .ok (.option .preset .nothing) := rfl
    have number : Token.classify options (toString pick.iterations) = .ok (.word (toString pick.iterations)) :=
      Token.classify_int pick.iterations
    rw [Token.classifyAll_word (Token.classify_undashed grammarPlain),
      Token.classifyAll_word (Token.classify_undashed outputPlain), Token.classifyAll_option count,
      Token.classifyAll_word number, Token.classifyAll_option settings,
      Token.classifyAll_word (Token.classify_undashed presetPlain), classifyAll_optionsArguments filePlain rfl]
    rfl
  have counted (given : Given) : given.set runtime .iterations (toString pick.iterations) =
      .ok { given with iterations := .filled pick.iterations } :=
    congrArg (Except.map _) (Given.slot_toInteger .iterations pick.iterations (listed.digits runtime))
  have chosen (given : Given) : given.set runtime .preset pick.preset = .ok { given with preset := .filled pick.preset } := by
    have known : ∀ name ∈ Catalog.presets.map (·.1), (Catalog.preset? name).isSome := by decide
    rw [Given.set, Given.slot_filled presetPlain.ne_separator (if_pos (known _ listed.preset))]
    rfl
  refine Eq.trans (ofArguments_command .render) (requestOf_complete ?_)
  rw [CommandName.read]
  refine Eq.trans (congrArg (· >>= _) line) ?_
  change readTokens _ _ _ [.grammar, .output] _ _ _ = _
  rw [readTokens, grammarPlain.wordOf, readTokens, outputPlain.wordOf, Given.readTokens_set (counted _) (by decide),
    Given.readTokens_set (chosen _) (by decide), readTokens_optionsTokens filePlain rfl]
  rfl

namespace Command

/-- Each preset is settings that pass their checks. -/
theorem settings_preset (listed : preset ∈ Catalog.presets.map (·.1)) (named : given.preset = .filled preset)
    (step : given.step = .absent) (scale : given.scale = .absent) (stroke : given.strokeWidth = .absent) :
    settings given = .ok ((Catalog.preset? preset).getD {}) := by
  rw [settings, named, step, scale, stroke]
  simp only [Catalog.presets, List.map_cons, List.map_nil, List.mem_cons, List.not_mem_nil, or_false] at listed
  rcases listed with rfl | rfl | rfl <;> rfl

theorem render_pick (listed : pick.Listed) :
    render runtime read (pick.toGiven output file) =
      svgOptions runtime read (optionsSlot file) >>= pickFile pick (.filled output) := by
  obtain ⟨builtin, found, named⟩ := Catalog.grammar_of_name listed.grammar
  have asked : Command.grammar (pick.toGiven output file) = .ok builtin :=
    congrArg (Except.mapError Failure.fault) found
  rw [render, asked]
  change (settings _ >>= _) = _
  rw [settings_preset listed.preset rfl rfl rfl rfl]
  change (svgOptions _ _ _ >>= fun options => drawingFile builtin.name _ _ _ options) = _
  rw [named]
  rfl

/-- A random run that prints a line has picked what the line names, and draws it. -/
theorem random_of_printed
    (printed : (random runtime read freshSeed given).printed = announcement grammar iterations preset) :
    ∃ pick : RandomPick, pick.Listed ∧ pick.grammar = grammar ∧ toString pick.iterations = iterations ∧
      pick.preset = preset ∧ ∃ options, svgOptions runtime read given.options = .ok options ∧
        (random runtime read freshSeed given).result = (pickFile pick given.output options).map some := by
  unfold random at printed ⊢
  split at printed
  · exact absurd printed.symm announcement_ne_empty
  · rename_i pick options picked
    obtain ⟨loaded, read, picked⟩ := Outcome.bind_eq_ok.mp picked
    obtain ⟨seed, valued, picked⟩ := Outcome.bind_eq_ok.mp picked
    cases picked
    have listed := RandomPick.choose_listed (.ofSeed seed)
    obtain ⟨grammar, iterations, preset⟩ := pickLine_injective listed printed
    exact ⟨_, listed, grammar, iterations, preset, options, read, rfl⟩

end Command

namespace CommandLine

variable {tree : FileTree} {current : Place}

/-- What an answer prints changes nothing else of the run. -/
theorem carryOut_eq (answer : Answer) :
    carryOut runtime tree current answer =
      { carryOut runtime tree current ⟨"", answer.result⟩ with output := answer.printed } := by
  have unwritten (tree : FileTree) (failure : Failure) :
      failed answer.printed tree failure = { failed "" tree failure with output := answer.printed } := by
    unfold failed
    cases failure.report? <;> rfl
  obtain ⟨printed, result⟩ := answer
  cases result with
  | error failure => exact unwritten tree failure
  | ok file =>
    cases file with
    | none => rfl
    | some file =>
      obtain ⟨path, text⟩ := file
      unfold carryOut
      dsimp only
      rcases tree.write runtime.folders current path (text.getD "").toUTF8 with ⟨_ | _, after⟩
      · exact unwritten after (.file _)
      · cases text with
        | none => exact unwritten after (.fault .unencodable)
        | some text => rfl

/-- A random run prints the pick of its seed if its options can be read, even if nothing can be
    written then. -/
theorem output_random (outputPlain : Undashed output) (filePlain : ∀ path ∈ file, Undashed path)
    {options : SvgOptions}
    (loaded : Command.svgOptions runtime (tree.read current) (optionsSlot file) = .ok options) (n : Int)
    (few : (Nat.toDigits 10 n.natAbs).length ≤ runtime.digits) :
    (run runtime tree current freshSeed (randomArguments output (toString n) file)).output =
      Command.pickLine (RandomPick.choose (.ofSeed n)).1 := by
  rw [run, ofArguments_random_int outputPlain filePlain n few]
  dsimp only
  rw [carryOut_eq, Command.answer, Command.random, Command.pick]
  dsimp only
  rw [loaded]
  rfl

/-- The picture of a random run is drawn again by asking for what its line names: the run
    ends in the same way, reports the same and leaves the same files. -/
theorem render_of_random (runtime : Runtime) (tree : FileTree) (current : Place) (freshSeed later : Int)
    (output seed grammar iterations preset : String) (file : Option String) (outputPlain : Undashed output)
    (filePlain : ∀ path ∈ file, Undashed path)
    (printed : (run runtime tree current freshSeed (randomArguments output seed file)).output =
      announcement grammar iterations preset) :
    run runtime tree current later (renderArguments grammar iterations preset output file) =
      { run runtime tree current freshSeed (randomArguments output seed file) with output := "" } := by
  rcases @ofArguments_random output seed file runtime outputPlain filePlain with ⟨fault, misused⟩ | ⟨slot, asked⟩
  · rw [run, misused] at printed
    exact absurd printed.symm announcement_ne_empty
  · have random : run runtime tree current freshSeed (randomArguments output seed file) =
        carryOut runtime tree current (Command.random runtime (tree.read current) freshSeed
          { output := .filled output, seed := slot, options := optionsSlot file }) := by
      rw [run, asked]
      rfl
    rw [random, carryOut_eq] at printed
    obtain ⟨pick, listed, rfl, rfl, rfl, options, loaded, result⟩ := Command.random_of_printed printed
    have drawn : Command.render runtime (tree.read current) (pick.toGiven output file) =
        Command.pickFile pick (.filled output) options := by
      rw [Command.render_pick listed]
      exact congrArg (· >>= _) loaded
    have again : run runtime tree current later
        (renderArguments pick.grammar (toString pick.iterations) pick.preset output file) =
        carryOut runtime tree current ⟨"", (Command.pickFile pick (.filled output) options).map some⟩ := by
      rw [run, ofArguments_render listed outputPlain filePlain, ← drawn]
      rfl
    rw [again, random, carryOut_eq (Command.random _ _ _ _), result]
    exact carryOut_eq ⟨"", _⟩

/-- A folder with a file of SVG options. -/
def leafFolder : FileTree := ⟨[(["o.json"], .file "\x7b\"flip_y\": false\x7d".toUTF8)]⟩

/-- The pick of the seed -7, drawn twice with the options of the file. -/
theorem render_of_random_leaf :
    let pick := (RandomPick.choose (.ofSeed (-7))).1
    let drawn := run .usual leafFolder [] 0 (randomArguments "leaf.svg" "-7" (some "o.json"))
    Undashed "leaf.svg" ∧ (∀ path ∈ some "o.json", Undashed path) ∧
      drawn.output = announcement pick.grammar (toString pick.iterations) pick.preset ∧
      run .usual leafFolder [] 1
        (renderArguments pick.grammar (toString pick.iterations) pick.preset "leaf.svg" (some "o.json")) =
        { drawn with output := "" } := by
  have outputPlain : Undashed "leaf.svg" := by decide
  have filePlain : ∀ path ∈ some "o.json", Undashed path := by decide
  have readable : (Command.svgOptions .usual (leafFolder.read []) (optionsSlot (some "o.json"))).toBool = true := by
    decide +kernel
  obtain ⟨options, loaded⟩ := Outcome.exists_of_toBool readable
  have printed := @output_random "leaf.svg" (some "o.json") .usual 0 leafFolder [] outputPlain filePlain options loaded
    (-7) (by decide)
  exact ⟨outputPlain, filePlain, printed, render_of_random _ _ _ _ _ _ _ _ _ _ _ outputPlain filePlain printed⟩

end CommandLine

end PlantDrawing
