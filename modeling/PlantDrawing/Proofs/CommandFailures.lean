import PlantDrawing.Proofs.GivenArguments
import PlantDrawing.Proofs.JsonBounds
import PlantDrawing.Proofs.SvgFaults

/-!
# How a command fails

Whatever is wrong before a command writes its file is told on one line, or it is one of a few
failures that end the program on their own (`Command.answer_settled`). Two messages copy text
from outside as it is: a path to a file that is no JSON text, and keys that no option has;
these alone can break the line. That a text cannot be encoded is not found out before the file
is written, and then it is all that is wrong (`Command.answer_file`).
-/
namespace PlantDrawing

open Outcome (FailsWith)

variable {runtime : Runtime} {tree : FileTree} {current : Place} {freshSeed : Int} {given : Given}
  {command : CommandName} {read : String → Except FileFault ByteArray} {path text : String} {options : SvgOptions}

/-! ## What is told and what is not -/

/-- The separator stands where a value is needed. -/
def Given.Blank (given : Given) : Prop :=
  given.grammar = .blank ∨ given.output = .blank ∨ given.preset = .blank ∨ given.step = .blank ∨
    given.scale = .blank ∨ given.strokeWidth = .blank ∨ given.options = .blank ∨ given.seed = .blank

/-- A file of options with given contents is asked for. -/
def Given.Reads (tree : FileTree) (current : Place) (given : Given) (path : String) (bytes : ByteArray) : Prop :=
  given.options = .filled path ∧ tree.read current path = .ok bytes

/-- A file of options with a given text is asked for, whose lines all end alike when it is
    read. -/
def Given.ReadsText (tree : FileTree) (current : Place) (given : Given) (path : String) (text : List Char) : Prop :=
  ∃ bytes content, given.Reads tree current path bytes ∧ String.fromUTF8? bytes = some content ∧
    text = SvgOptions.unifyLines content.toList

/-- The SVG options that are asked for. -/
def Given.Chooses (runtime : Runtime) (tree : FileTree) (current : Place) (given : Given) (options : SvgOptions) :
    Prop :=
  Command.svgOptions runtime (tree.read current) given.options = .ok options

/-- The failures that end the program on their own before anything is written. -/
inductive Stops (runtime : Runtime) (tree : FileTree) (current : Place) (given : Given) : Failure → Prop
  | separator (blank : given.Blank) : Stops runtime tree current given .noValue
  | undecodable {path : String} {bytes : ByteArray} (reads : given.Reads tree current path bytes)
    (noText : String.fromUTF8? bytes = none) : Stops runtime tree current given (.fault .undecodable)
  | tooNested {path : String} {text : List Char} (reads : given.ReadsText tree current path text)
    (refused : Json.read runtime (String.ofList text) = .error .tooNested)
    (nested : runtime.nesting < text.countP Json.isOpening) :
    Stops runtime tree current given (.fault .tooNested)
  | tooManyDigits {path : String} {text : List Char} (reads : given.ReadsText tree current path text)
    (refused : Json.read runtime (String.ofList text) = .error .tooManyDigits)
    (long : Json.HasLongRow runtime.digits text) :
    Stops runtime tree current given (.fault .tooManyDigits)
  | tooLarge {path : String} {bytes : ByteArray} (reads : given.Reads tree current path bytes)
    (large : SvgOptions.ofBytes runtime path bytes = .error (.arithmetic .overflow)) :
    Stops runtime tree current given (.fault (.arithmetic .overflow))
  | rotation {options : SvgOptions} (chosen : given.Chooses runtime tree current options)
    (infinite : (Double.radians options.rotation).isInf = true) :
    Stops runtime tree current given (.fault (.arithmetic .undefined))
  | fading {options : SvgOptions} {depth : Int} {cause : ArithmeticFault}
    (chosen : given.Chooses runtime tree current options)
    (powerless : Double.power options.fade depth = .error cause) :
    Stops runtime tree current given (.fault (.arithmetic cause))

/-- The messages that copy a text of more than one line from outside. -/
inductive Copies (runtime : Runtime) (tree : FileTree) (current : Place) (given : Given) : String → Prop
  | path {path : String} {bytes : ByteArray} {cause : Json.SyntaxFault} (reads : given.Reads tree current path bytes)
    (refused : SvgOptions.ofBytes runtime path bytes = .error (.config (.invalidJson path cause)))
    (broken : ¬ OneLine path) : Copies runtime tree current given (ConfigFault.message (.invalidJson path cause))
  | keys {path place : String} {bytes : ByteArray} {keys : List Text} (reads : given.Reads tree current path bytes)
    (refused : SvgOptions.ofBytes runtime path bytes = .error (.config (.unknownKeys place keys)))
    (broken : ∃ key ∈ keys, ¬ OneLine key.shown) :
    Copies runtime tree current given (ConfigFault.message (.unknownKeys place keys))

/-- What a failed run tells: one line, unless the message copies more than one. -/
inductive Tells (runtime : Runtime) (tree : FileTree) (current : Place) (given : Given) : String → Prop
  | config {message : String} (line : OneLine message ∨ Copies runtime tree current given message) :
    Tells runtime tree current given ("Config error: " ++ message)
  | file {message : String} (line : OneLine message) : Tells runtime tree current given ("File error: " ++ message)

/-- A failure is told, or it is one of those that are not. -/
def Settled (runtime : Runtime) (tree : FileTree) (current : Place) (given : Given) (failure : Failure) : Prop :=
  (∃ line, failure.report? = some line ∧ Tells runtime tree current given line) ∨
    failure.report? = none ∧ Stops runtime tree current given failure

theorem report?_of_reported {fault : FileFault} (reported : fault.problem.Reported) :
    Failure.report? (.file fault) = some ("File error: " ++ fault.message) := by
  obtain ⟨problem, path⟩ := fault
  cases problem with
  | nullCharacter => exact reported.elim
  | tooDeep => exact reported.elim
  | _ => rfl

theorem settled_told {fault : Fault} (told : fault.Told) : Settled runtime tree current given (.fault fault) :=
  .inl ⟨_, if_pos told.asked, .config (.inl told.line)⟩

theorem settled_file {fault : FileFault} (reported : fault.problem.Reported) :
    Settled runtime tree current given (.file fault) :=
  .inl ⟨_, report?_of_reported reported, .file (FileFault.oneLine reported)⟩

theorem settled_options {bytes : ByteArray} {fault : Fault} (reads : given.Reads tree current path bytes)
    (refused : SvgOptions.ofBytes runtime path bytes = .error fault) :
    Settled runtime tree current given (.fault fault) := by
  rcases SvgOptions.ofBytes_faults runtime path bytes fault refused with
    ⟨rfl, noText⟩ | ⟨content, cause, decoded, unread, rfl⟩ | wrong
  · exact .inr ⟨rfl, .undecodable reads noText⟩
  · have readsText : given.ReadsText tree current path (SvgOptions.unifyLines content.toList) :=
      ⟨bytes, content, reads, decoded, rfl⟩
    obtain ⟨nested, long⟩ := Json.read_exceeds unread
    rw [String.toList_ofList] at nested long
    cases cause with
    | malformed cause =>
      refine .inl ⟨_, rfl, .config ?_⟩
      by_cases line : OneLine path
      · exact .inl (oneLine_invalidJson cause line)
      · exact .inr (.path reads refused line)
    | tooNested => exact .inr ⟨rfl, .tooNested readsText unread (nested rfl)⟩
    | tooManyDigits => exact .inr ⟨rfl, .tooManyDigits readsText unread (long rfl)⟩
  · cases wrong with
    | told told => exact settled_told told
    | tooLarge => exact .inr ⟨rfl, .tooLarge reads refused⟩
    | @unknownKeys place keys line =>
      refine .inl ⟨_, rfl, .config ?_⟩
      by_cases lines : ∀ key ∈ keys, OneLine key.shown
      · exact .inl (oneLine_unknownKeys line lines)
      · exact .inr (.keys reads refused (by simpa using lines))

/-! ## Commands -/

namespace Command

theorem valueOf_settled {α : Type} {slot : Slot α} {default : α} (blank : slot = .blank → given.Blank) :
    FailsWith (Settled runtime tree current given) (valueOf slot default) := by
  unfold valueOf
  split
  · exact .ok _
  · exact .error (.inr ⟨rfl, .separator (blank rfl)⟩)
  · exact .ok _

theorem needed_settled {slot : Slot String} (present : slot ≠ .absent) (blank : slot = .blank → given.Blank) :
    FailsWith (Settled runtime tree current given) (needed slot) := by
  unfold needed
  split
  · exact .ok _
  · cases slot with
    | absent => exact absurd rfl present
    | blank => exact .error (.inr ⟨rfl, .separator (blank rfl)⟩)
    | filled word => rename_i other; exact absurd rfl (other word)

theorem settings_settled (given : Given) : FailsWith (Settled runtime tree current given) (settings given) := by
  have positive (setting : String) (line : OneLine setting) (x : Float) :
      FailsWith (Settled runtime tree current given) ((Settings.checkPositive setting x).mapError .fault) :=
    (Settings.checkPositive_told line x).mapError fun _ told => settled_told told
  unfold settings
  refine .bind (valueOf_settled fun blank => by simp [Given.Blank, blank]) fun preset _ => ?_
  refine .bind (valueOf_settled fun blank => by simp [Given.Blank, blank]) fun step _ => ?_
  refine .bind (positive "step_length" (by decide) step) fun _ _ => ?_
  refine .bind (valueOf_settled fun blank => by simp [Given.Blank, blank]) fun scale _ => ?_
  refine .bind (positive "length_scale" (by decide) scale) fun _ _ => ?_
  refine .bind (valueOf_settled fun blank => by simp [Given.Blank, blank]) fun stroke _ => ?_
  exact .bind (positive "stroke_width" (by decide) stroke) fun _ _ => .ok _

theorem svgOptions_settled (paths : given.PathsFree) :
    FailsWith (Settled runtime tree current given) (svgOptions runtime (tree.read current) given.options) := by
  cases named : given.options with
  | absent => exact .ok _
  | blank => exact .error (.inr ⟨rfl, .separator (by simp [Given.Blank, named])⟩)
  | filled path =>
    have reported : FailsWith (fun fault => fault.problem.Reported) (tree.read current path) :=
      fun _ unread => FileTree.read_reported (paths.options path named) unread
    refine .bind (reported.mapError fun _ => settled_file) fun bytes contents => ?_
    intro _ failed
    obtain ⟨fault, refused, rfl⟩ := Outcome.mapError_eq_error.mp failed
    exact settled_options ⟨named, Outcome.mapError_eq_ok.mp contents⟩ refused

theorem accepted_svgOptions {slot : Slot String} (chosen : svgOptions runtime read slot = .ok options) :
    options.Accepted := by
  unfold svgOptions at chosen
  split at chosen
  · cases chosen
    exact SvgOptions.accepted_default
  · cases chosen
  · obtain ⟨bytes, _, chosen⟩ := Outcome.bind_eq_ok.mp chosen
    exact SvgOptions.accepted_ofBytes (Outcome.mapError_eq_ok.mp chosen)

theorem deferred_eq_error {text : Except Fault String} {fault : Fault} :
    deferred text = .error fault ↔ text = .error fault ∧ fault ≠ .unencodable := by
  unfold deferred
  split
  · exact iff_of_false nofun fun ⟨same, other⟩ => other (Except.error.inj same).symm
  · rename_i other
    rw [Outcome.map_eq_error]
    refine ⟨fun failed => ⟨failed, ?_⟩, And.left⟩
    rintro rfl
    exact other failed

theorem deferred_eq_none {text : Except Fault String} : deferred text = .ok none ↔ text = .error .unencodable := by
  unfold deferred
  split
  · simp
  · rename_i other
    rw [Outcome.map_eq_ok]
    exact iff_of_false (by simp) other

theorem drawingFile_settled (name : String) (iterations : Json) (settings : Settings)
    (chosen : given.Chooses runtime tree current options) (present : given.output ≠ .absent) :
    FailsWith (Settled runtime tree current given) (drawingFile name iterations settings given.output options) := by
  refine .bind ((Drawing.make_told _ _ _ _).mapError fun _ told => settled_told told) fun drawing _ => ?_
  refine .bind (iterations.toIterations_told.mapError fun _ told => settled_told told) fun count _ => ?_
  refine .bind ?_ fun text _ => ?_
  · intro _ unwritten
    obtain ⟨fault, stopped, rfl⟩ := Outcome.mapError_eq_error.mp unwritten
    obtain ⟨failed, encodable⟩ := deferred_eq_error.mp stopped
    cases SvgDocument.tree_faults _ (accepted_svgOptions chosen) _ _ _ (Outcome.map_eq_error.mp failed) with
    | told told => exact settled_told told
    | rotation infinite => exact .inr ⟨rfl, .rotation chosen infinite⟩
    | fading powerless => exact .inr ⟨rfl, .fading chosen powerless⟩
    | unencodable => exact absurd rfl encodable
  · exact .bind (needed_settled present fun blank => by simp [Given.Blank, blank]) fun path _ => .ok _

/-- What is written is a drawing, to the path in the place of the output; if it cannot be
    encoded, a text of its options is no string. -/
theorem drawingFile_eq_ok {name : String} {iterations : Json} {settings : Settings} {output : Slot String}
    {file : OutputFile} (accepted : options.Accepted)
    (drawn : drawingFile name iterations settings output options = .ok file) :
    output = .filled file.path ∧ (file.text = none → SvgDocument.palette options = .error .unencodable) := by
  obtain ⟨_, _, drawn⟩ := Outcome.bind_eq_ok.mp drawn
  obtain ⟨_, _, drawn⟩ := Outcome.bind_eq_ok.mp drawn
  obtain ⟨text, written, drawn⟩ := Outcome.bind_eq_ok.mp drawn
  obtain ⟨path, needs, drawn⟩ := Outcome.bind_eq_ok.mp drawn
  cases drawn
  refine ⟨?_, ?_⟩
  · unfold needed at needs
    split at needs <;> cases needs
    rfl
  · rintro rfl
    have failed := deferred_eq_none.mp (Outcome.mapError_eq_ok.mp written)
    exact SvgDocument.stringless_of_unencodable accepted (Outcome.map_eq_error.mp failed)

theorem grammar_settled (present : given.grammar ≠ .absent) :
    FailsWith (Settled runtime tree current given) (grammar given) :=
  .bind (needed_settled present fun blank => .inl blank) fun name _ =>
    (Catalog.grammar_told name).mapError fun _ told => settled_told told

/-- Every failure of a command before it writes its file is told or escapes. -/
theorem answer_settled (fits : given.Fits command []) (freshSeed : Int) :
    FailsWith (Settled runtime tree current given)
      (answer runtime (tree.read current) freshSeed given command).result := by
  have present (place : PlaceName) (member : place ∈ command.places) : given.slotOf place ≠ .absent :=
    (fits.words place member).resolve_left (by simp)
  cases command with
  | list => exact .ok _
  | render =>
    refine .map (.bind (grammar_settled (present .grammar (by decide))) fun grammar _ => ?_)
    refine .bind (settings_settled given) fun settings _ => ?_
    refine .bind (svgOptions_settled fits.paths) fun options chosen => ?_
    exact drawingFile_settled _ _ _ chosen (present .output (by decide))
  | validate =>
    have validated : FailsWith (Settled runtime tree current given) (validate given) := by
      refine .bind (grammar_settled (present .grammar (by decide))) fun grammar _ => ?_
      refine .bind (settings_settled given) fun settings _ => ?_
      exact .bind ((Report.make_told _ _ _ _).mapError fun _ told => settled_told told) fun report _ => .ok _
    simp only [answer, Answer.ofReport]
    split
    · exact .ok _
    · rename_i failure failed
      exact .error (validated failure failed)
  | random =>
    simp only [answer, random]
    split
    · rename_i failure failed
      refine .error (FailsWith.bind (svgOptions_settled fits.paths) (fun options _ => ?_) failure failed)
      exact .bind (valueOf_settled fun blank => by simp [Given.Blank, blank]) fun seed _ => .ok _
    · rename_i pick options picked
      obtain ⟨_, chosen, picked⟩ := Outcome.bind_eq_ok.mp picked
      obtain ⟨_, _, picked⟩ := Outcome.bind_eq_ok.mp picked
      cases picked
      exact .map (drawingFile_settled _ _ _ chosen (present .output (by decide)))

/-- What a command writes is a drawing, to the path in the place of the output; if it cannot be
    encoded, a text of the options that are asked for is no string. -/
theorem answer_file {file : OutputFile}
    (answered : (answer runtime (tree.read current) freshSeed given command).result = .ok (some file)) :
    (command = .render ∨ command = .random) ∧ given.output = .filled file.path ∧
      (file.text = none → ∃ options, given.Chooses runtime tree current options ∧
        SvgDocument.palette options = .error .unencodable) := by
  cases command with
  | list => cases answered
  | validate =>
    simp only [answer, Answer.ofReport] at answered
    split at answered <;> cases answered
  | render =>
    obtain ⟨_, rendered, same⟩ := Outcome.map_eq_ok.mp answered
    cases same
    obtain ⟨_, _, rendered⟩ := Outcome.bind_eq_ok.mp rendered
    obtain ⟨_, _, rendered⟩ := Outcome.bind_eq_ok.mp rendered
    obtain ⟨options, chosen, rendered⟩ := Outcome.bind_eq_ok.mp rendered
    obtain ⟨output, stringless⟩ := drawingFile_eq_ok (accepted_svgOptions chosen) rendered
    exact ⟨.inl rfl, output, fun missing => ⟨options, chosen, stringless missing⟩⟩
  | random =>
    simp only [answer, random] at answered
    split at answered
    · cases answered
    · rename_i pick options picked
      obtain ⟨_, chosen, picked⟩ := Outcome.bind_eq_ok.mp picked
      obtain ⟨_, _, picked⟩ := Outcome.bind_eq_ok.mp picked
      cases picked
      obtain ⟨_, drawn, same⟩ := Outcome.map_eq_ok.mp answered
      cases same
      obtain ⟨output, stringless⟩ := drawingFile_eq_ok (accepted_svgOptions chosen) drawn
      exact ⟨.inr rfl, output, fun missing => ⟨options, chosen, stringless missing⟩⟩

/-- A command that draws writes a file if it succeeds. -/
theorem answer_none (answered : (answer runtime read freshSeed given command).result = .ok none) :
    command = .list ∨ command = .validate := by
  cases command with
  | list => exact .inl rfl
  | validate => exact .inr rfl
  | render =>
    obtain ⟨_, _, same⟩ := Outcome.map_eq_ok.mp answered
    cases same
  | random =>
    simp only [answer, random] at answered
    split at answered
    · cases answered
    · obtain ⟨_, _, same⟩ := Outcome.map_eq_ok.mp answered
      cases same

end Command

end PlantDrawing
