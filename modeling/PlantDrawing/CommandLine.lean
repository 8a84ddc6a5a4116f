import PlantDrawing.Arguments
import PlantDrawing.FileTree
import PlantDrawing.HelpText
import PlantDrawing.OptionsObject
import PlantDrawing.RandomPick
import PlantDrawing.Report
import PlantDrawing.SvgDocument

/-!
# The command line

A command reads at most one file, the one with the options, and writes at most
one, the drawing. `Command.answer` settles everything but the writing: what is
printed, and either why the command fails or the file to write. Nothing is
written before everything else has succeeded, but for one thing: a text that cannot
be encoded is found out when the file is already open, and leaves it empty.

`CommandLine.run` carries a whole line of arguments out on a file tree.
-/

namespace PlantDrawing

/-- Why a command fails. -/
inductive Failure where
  | fault (cause : Fault)
  | file (cause : FileFault)
  /-- The separator stands where a value is needed. -/
  | noValue
  deriving DecidableEq, Repr

namespace Failure

/-- Whether a fault comes from what was asked for, and not from the arithmetic,
    the runtime or the coding of a text. -/
def isRequestFault : Fault → Bool
  | .config _ | .grammar .. | .duplicateGrammar _ | .unknownGrammar .. | .expansionLimit ..
  | .unbalancedBranch _ => true
  | .arithmetic _ | .digitCount | .undecodable | .tooNested | .tooManyDigits | .unencodable => false

/-- The line that reports a failure. The others are not reported: they end the
    program on their own. -/
def report? : Failure → Option String
  | .fault cause => if isRequestFault cause then some ("Config error: " ++ cause.message) else none
  | .file ⟨.nullCharacter, _⟩ => none
  | .file ⟨.tooDeep, _⟩ => none
  | .file cause => some ("File error: " ++ cause.message)
  | .noValue => none

/-- The wording of a failure that is not reported. -/
def message : Failure → String
  | .fault cause => cause.message
  | .file cause => cause.message
  | .noValue => "a value is needed in place of the separator"

end Failure

/-- A file to be written: where, and its text unless that cannot be encoded. -/
structure OutputFile where
  path : String
  text : Option String

/-- What a command comes to: the text that it prints, and why it fails or which
    file it writes. -/
structure Answer where
  printed : String
  result : Except Failure (Option OutputFile)

namespace Answer

/-- An answer that prints a text and writes nothing. -/
def ofText (text : String) : Answer := ⟨text, .ok none⟩

/-- An answer that prints a text unless there is none. -/
def ofReport : Except Failure String → Answer
  | .ok text => ofText text
  | .error failure => ⟨"", .error failure⟩

end Answer

namespace Command

/-- The most symbols that a word may have. -/
def symbolLimit : Int := 1000000

/-- What stands in a slot, or the default if nothing is said of it. -/
def valueOf {α : Type} (slot : Slot α) (default : α) : Except Failure α :=
  match slot with
  | .absent => .ok default
  | .blank => .error .noValue
  | .filled value => .ok value

/-- A word that a command cannot do without. -/
def needed (slot : Slot String) : Except Failure String :=
  match slot with
  | .filled word => .ok word
  | _ => .error .noValue

/-- The settings asked for: those of the preset, with what is given in place of
    them. Each must be above zero. -/
def settings (given : Given) : Except Failure Settings := do
  let preset ← valueOf given.preset "default"
  let base := (Catalog.preset? preset).getD {}
  let step ← valueOf given.step base.step
  (Settings.checkPositive "step_length" step).mapError .fault
  let scale ← valueOf given.scale base.scale
  (Settings.checkPositive "length_scale" scale).mapError .fault
  let stroke ← valueOf given.strokeWidth base.stroke
  (Settings.checkStroke stroke).mapError .fault
  .ok ⟨step, scale, stroke⟩

/-- The count of iterations asked for, still to be checked. A blank one is no
    number. -/
def iterations (grammar : Grammar) (given : Given) : Json :=
  match given.iterations with
  | .absent => .int grammar.maxIterations
  | .blank => .null
  | .filled n => .int n

/-- The SVG options asked for. -/
def svgOptions (runtime : Runtime) (read : String → Except FileFault ByteArray) :
    Slot String → Except Failure SvgOptions
  | .absent => .ok {}
  | .blank => .error .noValue
  | .filled path => do
    let bytes ← (read path).mapError .file
    (SvgOptions.ofBytes runtime path bytes).mapError .fault

/-- The built-in grammar asked for. -/
def grammar (given : Given) : Except Failure Grammar := do
  let name ← needed given.grammar
  (Catalog.grammar name).mapError .fault

/-- A text that cannot be encoded is no fault before it is written. -/
def deferred : Except Fault String → Except Fault (Option String)
  | .error .unencodable => .ok none
  | text => text.map some

/-- The file with the drawing of a grammar. -/
def drawingFile (name : String) (iterations : Json) (settings : Settings) (output : Slot String)
    (options : SvgOptions) : Except Failure OutputFile := do
  let drawing ← (Drawing.make name iterations settings (some symbolLimit)).mapError .fault
  let count ← iterations.toIterations.mapError .fault
  let title := name ++ " (n=" ++ toString count ++ ")"
  let text ← (deferred (svgDocument drawing.segments options settings.stroke (some title))).mapError .fault
  let path ← needed output
  .ok ⟨path, text⟩

/-- Draws the grammar asked for. -/
def render (runtime : Runtime) (read : String → Except FileFault ByteArray) (given : Given) :
    Except Failure OutputFile := do
  let grammar ← grammar given
  let settings ← settings given
  let options ← svgOptions runtime read given.options
  drawingFile grammar.name (iterations grammar given) settings given.output options

/-- Measures the grammar asked for. -/
def validate (given : Given) : Except Failure String := do
  let grammar ← grammar given
  let settings ← settings given
  let report ← (Report.make grammar.name (iterations grammar given) settings
    (some symbolLimit)).mapError .fault
  .ok report.text

/-- The line that shows a pick. -/
def pickLine (pick : RandomPick) : String :=
  pick.grammar ++ " n=" ++ toString pick.iterations ++ " preset=" ++ pick.preset ++ "\n"

/-- The file with the drawing of a pick. -/
def pickFile (pick : RandomPick) (output : Slot String) (options : SvgOptions) :
    Except Failure OutputFile :=
  drawingFile pick.grammar (.int pick.iterations) ((Catalog.preset? pick.preset).getD {}) output
    options

/-- The pick asked for, with the SVG options to draw it with. -/
def pick (runtime : Runtime) (read : String → Except FileFault ByteArray) (freshSeed : Int)
    (given : Given) : Except Failure (RandomPick × SvgOptions) := do
  let options ← svgOptions runtime read given.options
  let seed ← valueOf given.seed freshSeed
  .ok ((RandomPick.choose (.ofSeed seed)).1, options)

/-- Draws a random pick. The pick is printed even if it cannot be drawn. -/
def random (runtime : Runtime) (read : String → Except FileFault ByteArray) (freshSeed : Int)
    (given : Given) : Answer :=
  match pick runtime read freshSeed given with
  | .error failure => ⟨"", .error failure⟩
  | .ok (pick, options) => ⟨pickLine pick, (pickFile pick given.output options).map some⟩

/-- The answer of a command. `read` gives the contents of a file, and
    `freshSeed` is used where no seed is given. -/
def answer (runtime : Runtime) (read : String → Except FileFault ByteArray) (freshSeed : Int)
    (given : Given) : CommandName → Answer
  | .list => .ofText Catalog.listing
  | .render => ⟨"", (render runtime read given).map some⟩
  | .validate => .ofReport (validate given)
  | .random => random runtime read freshSeed given

end Command

/-! ## Whole runs -/

/-- How a run ends. -/
inductive Ending where
  | success
  /-- The command failed, and the failure was reported. -/
  | refused
  /-- The arguments made no sense. -/
  | misused
  /-- The command failed without a report. -/
  | crashed (failure : Failure)
  deriving DecidableEq, Repr

/-- The exit code of an ending. -/
def Ending.code : Ending → Nat
  | success => 0
  | refused => 2
  | misused => 2
  | crashed _ => 1

/-- All that a run leaves behind. -/
structure Outcome where
  ending : Ending
  output : String
  errors : String
  tree : FileTree
  deriving DecidableEq

namespace CommandLine

/-- What is written about a misuse of the arguments. -/
def usageReport (fault : UsageFault) : String :=
  HelpText.usage fault.command ++ "\n" ++ HelpText.program fault.command ++ ": error: " ++
    fault.misuse.message ++ "\n"

/-- The outcome of a command that failed. -/
def failed (output : String) (tree : FileTree) (failure : Failure) : Outcome :=
  match failure.report? with
  | some line => ⟨.refused, output, line ++ "\n", tree⟩
  | none => ⟨.crashed failure, output, "", tree⟩

/-- Carries an answer out: writes its file, if it has one. A file whose text cannot be
    encoded is opened all the same. -/
def carryOut (runtime : Runtime) (tree : FileTree) (current : Place) (answer : Answer) : Outcome :=
  match answer.result with
  | .error failure => failed answer.printed tree failure
  | .ok none => ⟨.success, answer.printed, "", tree⟩
  | .ok (some file) =>
    match tree.write runtime.folders current file.path (file.text.getD "").toUTF8, file.text with
    | (.ok (), written), some _ => ⟨.success, answer.printed, "", written⟩
    | (.ok (), written), none => failed answer.printed written (.fault .unencodable)
    | (.error fault, written), _ => failed answer.printed written (.file fault)

/-- Runs the program in a folder of a file tree. -/
def run (runtime : Runtime) (tree : FileTree) (current : Place) (freshSeed : Int)
    (arguments : List String) : Outcome :=
  match Request.ofArguments runtime arguments with
  | .error fault => ⟨.misused, "", usageReport fault, tree⟩
  | .ok (.help command) => ⟨.success, HelpText.text command, "", tree⟩
  | .ok (.run command given) =>
    carryOut runtime tree current
      (Command.answer runtime (tree.read current) freshSeed given command)

end CommandLine

end PlantDrawing
