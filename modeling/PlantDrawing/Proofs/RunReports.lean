import PlantDrawing.Proofs.RunChanges

/-!
# What a run reports

A run that was asked for in proper words succeeds without a word on the error output, or
tells what went wrong on one line there. Two messages copy text from outside as it is: a
path to a file that is no JSON text, and keys that no option has; these alone can break the
line. And a few failures are not told at all (`Escapes`): they end the program on their own
(`run_reports`).
-/
namespace PlantDrawing

open Outcome (FailsWith)

variable {runtime : Runtime} {tree : FileTree} {current : Place} {given : Given} {command : CommandName}

/-- The failures that end the program on their own: those that are found before it writes, a
    text that cannot be encoded, and too many folders to make. -/
inductive Escapes (runtime : Runtime) (tree : FileTree) (current : Place) (given : Given) : Failure → Prop
  | early {failure : Failure} (stops : Stops runtime tree current given failure) :
    Escapes runtime tree current given failure
  | unencodable {options : SvgOptions} (chosen : given.Chooses runtime tree current options)
    (stringless : SvgDocument.palette options = .error .unencodable) :
    Escapes runtime tree current given (.fault .unencodable)
  | tooDeep {path : String} (output : given.output = .filled path)
    (deep : runtime.folders < tree.missingAlong (FileTree.mark path)
      (FileTree.nominalPlace current path).dropLast.reverse) :
    Escapes runtime tree current given (.file ⟨.tooDeep, path⟩)

namespace CommandLine

/-- How a run that was asked for can end, and what it leaves on the error output. -/
def Reported (runtime : Runtime) (tree : FileTree) (current : Place) (given : Given) (outcome : Outcome) : Prop :=
  (outcome.ending = .success ∧ outcome.errors = "") ∨
    (outcome.ending = .refused ∧ ∃ line, outcome.errors = line ++ "\n" ∧ Tells runtime tree current given line) ∨
    ∃ failure, outcome.ending = .crashed failure ∧ outcome.errors = "" ∧
      Escapes runtime tree current given failure

theorem failed_told {failure : Failure} {line : String} (output : String) (after : FileTree)
    (told : failure.report? = some line) (tells : Tells runtime tree current given line) :
    Reported runtime tree current given (failed output after failure) := by
  unfold failed
  rw [told]
  exact .inr (.inl ⟨rfl, line, rfl, tells⟩)

theorem failed_untold {failure : Failure} (output : String) (after : FileTree) (untold : failure.report? = none)
    (escapes : Escapes runtime tree current given failure) :
    Reported runtime tree current given (failed output after failure) := by
  unfold failed
  rw [untold]
  exact .inr (.inr ⟨failure, rfl, rfl, escapes⟩)

theorem failed_settled {failure : Failure} (output : String) (after : FileTree)
    (settled : Settled runtime tree current given failure) :
    Reported runtime tree current given (failed output after failure) := by
  rcases settled with ⟨line, told, tells⟩ | ⟨untold, stops⟩
  · exact failed_told output after told tells
  · exact failed_untold output after untold (.early stops)

/-- A run that is asked for in proper words either succeeds and writes nothing to the error
    output; or it is refused and tells why, on one line unless the message copies more than
    one line of a path or of a key; or a failure ends it that is not reported, which is one of
    those listed in `Escapes`. -/
theorem run_reports (runtime : Runtime) (tree : FileTree) (current : Place) (freshSeed : Int)
    (arguments : List String) (hereFree : current.NullFree) (plain : ∀ argument ∈ arguments, NullFree argument)
    {command : CommandName} {given : Given}
    (asked : Request.ofArguments runtime arguments = .ok (.run command given)) :
    Reported runtime tree current given (run runtime tree current freshSeed arguments) := by
  have fits := ofArguments_fits plain asked
  unfold run
  rw [asked]
  dsimp only
  have carried := carryOut_carried runtime tree current
    (Command.answer runtime (tree.read current) freshSeed given command)
  generalize carryOut runtime tree current _ = outcome at carried ⊢
  cases carried with
  | @stopped failure answered => exact failed_settled _ tree (Command.answer_settled fits freshSeed _ answered)
  | silent | written => exact .inl ⟨rfl, rfl⟩
  | emptied answered missing _ =>
    obtain ⟨-, -, stringless⟩ := Command.answer_file answered
    obtain ⟨options, chosen, stringless⟩ := stringless missing
    exact failed_untold _ _ rfl (.unencodable chosen stringless)
  | @unwritten file bytes fault after answered lost =>
    have output := (Command.answer_file answered).2.1
    rcases FileTree.write_reported hereFree (fits.paths.output _ output) lost with reported | ⟨rfl, -, deep⟩
    · exact failed_settled _ after (settled_file reported)
    · exact failed_untold _ after rfl (.tooDeep output deep)

/-- A folder with a file of options that is no text. -/
def scrambled : FileTree := ⟨[(["o.json"], .file ⟨#[0xFF]⟩)]⟩

/-- The arguments to draw a plant with the options of a file. -/
def plantWithOptions : List String := ["render", "plant", "out.svg", "-n", "1", "--options", "o.json"]

/-- Options that are no text end the program; that they are missing is told. -/
theorem run_reports_plant :
    (Place.NullFree [] ∧ ∀ argument ∈ plantWithOptions, NullFree argument) ∧
      ∃ given, Request.ofArguments .usual plantWithOptions = .ok (.run .render given) ∧
        Reported .usual scrambled [] given (run .usual scrambled [] 0 plantWithOptions) ∧
        (run .usual scrambled [] 0 plantWithOptions).ending = .crashed (.fault .undecodable) ∧
        Reported .usual ⟨[]⟩ [] given (run .usual ⟨[]⟩ [] 0 plantWithOptions) ∧
        (run .usual ⟨[]⟩ [] 0 plantWithOptions).errors =
          "File error: [Errno 2] No such file or directory: 'o.json'\n" := by
  have hereFree : Place.NullFree [] := by decide
  have plain : ∀ argument ∈ plantWithOptions, NullFree argument := by decide
  have asked : Request.ofArguments .usual plantWithOptions =
      .ok (.run .render ⟨.filled "plant", .filled "out.svg", .filled 1, .absent, .absent, .absent, .absent,
        .filled "o.json", .absent⟩) := by rfl
  refine ⟨⟨hereFree, plain⟩, _, asked, ?_, ?_, ?_, ?_⟩
  · exact run_reports .usual scrambled [] 0 plantWithOptions hereFree plain asked
  · decide +kernel
  · exact run_reports .usual ⟨[]⟩ [] 0 plantWithOptions hereFree plain asked
  · decide +kernel

/-- Not every run that is asked for succeeds or says on one line why it does not. -/
theorem run_can_end_unreported :
    ¬ ∀ (runtime : Runtime) (tree : FileTree) (current : Place) (freshSeed : Int) (arguments : List String)
      (command : CommandName) (given : Given), (∀ argument ∈ arguments, NullFree argument) →
        Request.ofArguments runtime arguments = .ok (.run command given) →
        (run runtime tree current freshSeed arguments).ending = .success ∨
          (run runtime tree current freshSeed arguments).ending = .refused := by
  intro claimed
  have plain : ∀ argument ∈ plantWithOptions, NullFree argument := by decide
  have crashed : (run .usual scrambled [] 0 plantWithOptions).ending = .crashed (.fault .undecodable) := by
    decide +kernel
  have settled := claimed .usual scrambled [] 0 plantWithOptions _ _ plain rfl
  rw [crashed] at settled
  simp at settled

end CommandLine

end PlantDrawing
