import PlantDrawing.Proofs.CommandFailures
import PlantDrawing.Proofs.FileChanges

/-!
# What a run changes

A run settles what can fail before it touches the file tree, and then writes one file at
most. So a run that fails leaves every file as it was, and every folder too unless a file
error is reported. The one exception is a text that cannot be encoded: it is found out when
the file is open, and leaves the file empty. A run that succeeds adds the drawing and the
folders that were missing on the way to it, as its path is resolved as text (`run_changes`).
That way need not be the one to the file where two dots stand behind a link
(`run_can_stray`).
-/
namespace PlantDrawing

namespace CommandLine

open FileTree (Onward Written)

variable {runtime : Runtime} {tree : FileTree} {current : Place} {given : Given} {command : CommandName}

/-- How an answer can be carried out. -/
inductive Carried (runtime : Runtime) (tree : FileTree) (current : Place) (answer : Answer) : Outcome → Prop
  | stopped {failure : Failure} (answered : answer.result = .error failure) :
    Carried runtime tree current answer (failed answer.printed tree failure)
  | silent (answered : answer.result = .ok none) :
    Carried runtime tree current answer ⟨.success, answer.printed, "", tree⟩
  | written {file : OutputFile} {text : String} {after : FileTree} (answered : answer.result = .ok (some file))
    (encoded : file.text = some text)
    (wrote : tree.write runtime.folders current file.path text.toUTF8 = (.ok (), after)) :
    Carried runtime tree current answer ⟨.success, answer.printed, "", after⟩
  | emptied {file : OutputFile} {after : FileTree} (answered : answer.result = .ok (some file))
    (stringless : file.text = none)
    (wrote : tree.write runtime.folders current file.path "".toUTF8 = (.ok (), after)) :
    Carried runtime tree current answer (failed answer.printed after (.fault .unencodable))
  | unwritten {file : OutputFile} {bytes : ByteArray} {fault : FileFault} {after : FileTree}
    (answered : answer.result = .ok (some file))
    (lost : tree.write runtime.folders current file.path bytes = (.error fault, after)) :
    Carried runtime tree current answer (failed answer.printed after (.file fault))

theorem carryOut_carried (runtime : Runtime) (tree : FileTree) (current : Place) (answer : Answer) :
    Carried runtime tree current answer (carryOut runtime tree current answer) := by
  unfold carryOut
  split
  · rename_i failure answered
    exact .stopped answered
  · rename_i answered
    exact .silent answered
  · rename_i file answered
    split
    · rename_i after text wrote encoded
      exact .written answered encoded (by rwa [encoded] at wrote)
    · rename_i after wrote stringless
      exact .emptied answered stringless (by rwa [stringless] at wrote)
    · rename_i fault after lost
      exact .unwritten answered lost

theorem failed_ending (output : String) (tree : FileTree) (failure : Failure) :
    (failed output tree failure).ending ≠ .success ∧ (failed output tree failure).tree = tree := by
  unfold failed
  split <;> exact ⟨by simp, rfl⟩

theorem failed_crashed {output : String} {tree : FileTree} {failure cause : Failure}
    (crashed : (failed output tree failure).ending = .crashed cause) : failure = cause := by
  unfold failed at crashed
  split at crashed <;> cases crashed
  rfl

/-- The later tree has the same files. -/
def SameFiles (before after : FileTree) : Prop :=
  ∀ place bytes, after.find? place = some (.file bytes) ↔ before.find? place = some (.file bytes)

/-- A file error is what the run reports. -/
def ReportsFileError (outcome : Outcome) : Prop := ∃ report, outcome.errors = "File error: " ++ report

/-- A text that cannot be encoded ends the run. -/
def Unencodable (outcome : Outcome) : Prop := outcome.ending = .crashed (.fault .unencodable)

/-- What a run that failed has changed. -/
theorem Carried.failed {answer : Answer} {outcome : Outcome} (hereFree : current.NullFree) (onward : Onward current)
    (plain : ∀ file, answer.result = .ok (some file) → NullFree file.path)
    (carried : Carried runtime tree current answer outcome) (unsuccessful : outcome.ending ≠ .success)
    (encodable : ¬ Unencodable outcome) :
    SameFiles tree outcome.tree ∧ (¬ ReportsFileError outcome → outcome.tree = tree) := by
  cases carried with
  | @stopped failure _ =>
    rw [(failed_ending _ _ failure).2]
    exact ⟨fun _ _ => .rfl, fun _ => rfl⟩
  | silent | written => exact absurd rfl unsuccessful
  | emptied => exact absurd rfl encodable
  | @unwritten file bytes fault after answered lost =>
    have grown := FileTree.write_eq_error onward lost
    rw [(failed_ending _ _ (.file fault)).2]
    refine ⟨fun _ _ => grown.find?_eq_some_iff (by simp), fun unreported => ?_⟩
    rcases FileTree.write_reported hereFree (plain _ answered) lost with reported | ⟨-, same, -⟩
    · refine absurd ⟨fault.message ++ "\n", ?_⟩ unreported
      rw [CommandLine.failed, report?_of_reported reported]
      exact String.append_assoc
    · exact same

/-- What a run that succeeded has changed. -/
theorem Carried.succeeded {answer : Answer} {outcome : Outcome} (onward : Onward current)
    (carried : Carried runtime tree current answer outcome) (successful : outcome.ending = .success) :
    answer.result = .ok none ∧ outcome.tree = tree ∨
      ∃ file place bytes, answer.result = .ok (some file) ∧
        Written current file.path tree outcome.tree place bytes := by
  cases carried with
  | @stopped failure _ => exact absurd successful (failed_ending _ _ failure).1
  | silent answered => exact .inl ⟨answered, rfl⟩
  | @written file text after answered _ wrote =>
    obtain ⟨place, written⟩ := FileTree.write_eq_ok onward wrote
    exact .inr ⟨file, place, _, answered, written⟩
  | emptied => exact absurd successful (failed_ending _ _ (.fault .unencodable)).1
  | @unwritten _ _ fault _ _ _ => exact absurd successful (failed_ending _ _ (.file fault)).1

/-- What a run has changed when a text turns out to be none that can be encoded. -/
theorem Carried.unencodable {answer : Answer} {outcome : Outcome} (onward : Onward current)
    (early : answer.result ≠ .error (.fault .unencodable))
    (carried : Carried runtime tree current answer outcome) (stringless : Unencodable outcome) :
    ∃ file place, answer.result = .ok (some file) ∧
      Written current file.path tree outcome.tree place "".toUTF8 := by
  cases carried with
  | stopped answered =>
    rw [failed_crashed stringless] at answered
    exact absurd answered early
  | silent | written => cases stringless
  | @emptied file after answered _ wrote =>
    obtain ⟨place, written⟩ := FileTree.write_eq_ok onward wrote
    refine ⟨file, place, answered, ?_⟩
    rwa [(failed_ending _ _ (.fault .unencodable)).2]
  | unwritten => cases failed_crashed stringless

/-- A run that does not succeed leaves all files as they were, and the whole tree unless it
    reports a file error; so does a request for help. Only if a text of the options cannot be
    encoded is there a file under the path of the output afterwards, an empty one. A run that
    succeeds changes nothing if it lists or validates. If it draws, there is a file under the
    path of the output afterwards; no other file has changed, and no folder is new but those
    that were missing on the way that the path names as a text. -/
theorem run_changes (runtime : Runtime) (tree : FileTree) (current : Place) (freshSeed : Int) (arguments : List String)
    (hereFree : current.NullFree) (onward : Onward current) (plain : ∀ argument ∈ arguments, NullFree argument)
    {outcome : Outcome} (ran : run runtime tree current freshSeed arguments = outcome) :
    (outcome.ending ≠ .success → ¬ Unencodable outcome →
        SameFiles tree outcome.tree ∧ (¬ ReportsFileError outcome → outcome.tree = tree)) ∧
      (∀ command, Request.ofArguments runtime arguments = .ok (.help command) → outcome.tree = tree) ∧
      ∀ command given, Request.ofArguments runtime arguments = .ok (.run command given) →
        (Unencodable outcome → ∃ path place, given.output = .filled path ∧
            Written current path tree outcome.tree place "".toUTF8) ∧
          (outcome.ending = .success →
            (command = .list ∨ command = .validate → outcome.tree = tree) ∧
              (command = .render ∨ command = .random → ∃ path place bytes, given.output = .filled path ∧
                Written current path tree outcome.tree place bytes)) := by
  unfold run at ran
  cases asked : Request.ofArguments runtime arguments with
  | error fault =>
    rw [asked] at ran
    subst ran
    exact ⟨fun _ _ => ⟨fun _ _ => .rfl, fun _ => rfl⟩, by simp, by simp⟩
  | ok request =>
    rw [asked] at ran
    cases request with
    | help command =>
      subst ran
      exact ⟨fun unsuccessful => absurd rfl unsuccessful, fun _ _ => rfl, by simp⟩
    | run command given =>
      have fits := ofArguments_fits plain asked
      have carried := carryOut_carried runtime tree current
        (Command.answer runtime (tree.read current) freshSeed given command)
      dsimp only at ran
      rw [ran] at carried
      have output : ∀ file, (Command.answer runtime (tree.read current) freshSeed given command).result =
          .ok (some file) → given.output = .filled file.path := fun _ drawn => (Command.answer_file drawn).2.1
      refine ⟨fun unsuccessful => carried.failed hereFree onward ?_ unsuccessful, by simp, ?_⟩
      · exact fun file drawn => fits.paths.output _ (output file drawn)
      · rintro _ _ ⟨⟩
        refine ⟨fun stringless => ?_, fun successful => ?_⟩
        · have early : (Command.answer runtime (tree.read current) freshSeed given command).result ≠
              .error (.fault .unencodable) := by
            intro early
            rcases Command.answer_settled fits freshSeed _ early with ⟨_, told, -⟩ | ⟨-, stops⟩
            · cases told
            · cases stops
          obtain ⟨file, place, drawn, written⟩ := carried.unencodable onward early stringless
          exact ⟨file.path, place, output file drawn, written⟩
        · rcases carried.succeeded onward successful with ⟨nothing, kept⟩ | ⟨file, place, bytes, drawn, written⟩
          · refine ⟨fun _ => kept, fun draws => ?_⟩
            rcases Command.answer_none nothing with rfl | rfl <;> simp at draws
          · refine ⟨fun silent => ?_, fun _ => ⟨file.path, place, bytes, output file drawn, written⟩⟩
            rcases (Command.answer_file drawn).1 with rfl | rfl <;> simp at silent

/-- A tree with a folder and some notes in it. -/
def garden : FileTree := ⟨[(["home"], .folder), (["home", "notes"], .file "weeds".toUTF8)]⟩

/-- A plant of no generations is drawn into a new folder; an oak is unknown. -/
theorem run_plants_in_garden :
    (Place.NullFree ["home"] ∧ Onward ["home"] ∧
        ∀ argument ∈ ["render", "plant", "new/plant.svg", "-n", "0"], NullFree argument) ∧
      (run .usual garden ["home"] 0 ["render", "plant", "new/plant.svg", "-n", "0"]).ending = .success ∧
      (∃ bytes, Written ["home"] "new/plant.svg" garden
        (run .usual garden ["home"] 0 ["render", "plant", "new/plant.svg", "-n", "0"]).tree
          ["home", "new", "plant.svg"] bytes) ∧
      (run .usual garden ["home"] 0 ["render", "oak", "new/oak.svg"]).ending ≠ .success ∧
      (run .usual garden ["home"] 0 ["render", "oak", "new/oak.svg"]).tree = garden := by
  have hereFree : Place.NullFree ["home"] := by decide
  have onward : Onward ["home"] := by decide
  have plain : ∀ argument ∈ ["render", "plant", "new/plant.svg", "-n", "0"], NullFree argument := by decide
  have successful : (run .usual garden ["home"] 0 ["render", "plant", "new/plant.svg", "-n", "0"]).ending = .success := by
    decide +kernel
  have asked : Request.ofArguments .usual ["render", "plant", "new/plant.svg", "-n", "0"] =
      .ok (.run .render ⟨.filled "plant", .filled "new/plant.svg", .filled 0, .absent, .absent, .absent, .absent,
        .absent, .absent⟩) := by rfl
  have refused : (run .usual garden ["home"] 0 ["render", "oak", "new/oak.svg"]).ending = .refused := by decide +kernel
  have linkless : FileTree.Linkless garden := FileTree.linkless_of_entries (by simp [garden])
  refine ⟨⟨hereFree, onward, plain⟩, successful, ?_, by simp [refused], ?_⟩
  · obtain ⟨-, -, drawn⟩ := run_changes .usual garden ["home"] 0 _ hereFree onward plain rfl
    obtain ⟨path, place, bytes, output, written⟩ := ((drawn _ _ asked).2 successful).2 (.inl rfl)
    cases output
    obtain ⟨rfl, -⟩ := written.linkless linkless
    exact ⟨bytes, written⟩
  · obtain ⟨kept, -, -⟩ := run_changes .usual garden ["home"] 0 ["render", "oak", "new/oak.svg"] hereFree onward
      (by decide) rfl
    refine (kept (by simp [refused]) (by simp [Unencodable, refused])).2 ?_
    rintro ⟨report, same⟩
    have first : (run .usual garden ["home"] 0 ["render", "oak", "new/oak.svg"]).errors.toList.head? = some 'C' := by
      decide +kernel
    rw [same] at first
    simp at first

/-- A home with a link out of it. -/
def linkedHome : FileTree :=
  ⟨[(["home"], .folder), (["home", "link"], .link "../elsewhere/inner"), (["elsewhere"], .folder),
    (["elsewhere", "inner"], .folder), (["elsewhere", "beds"], .folder)]⟩

/-- Behind a link two dots lead to another folder than they name as text. So a run can make a
    folder although none is missing on the way to its file. -/
theorem run_can_stray :
    linkedHome.writablePath ["home"] "link/../beds/plant.svg" = .ok ["elsewhere", "beds", "plant.svg"] ∧
      (run .usual linkedHome ["home"] 0 ["render", "plant", "link/../beds/plant.svg", "-n", "0"]).ending = .success ∧
      linkedHome.find? ["home", "beds"] = none ∧
      (run .usual linkedHome ["home"] 0 ["render", "plant", "link/../beds/plant.svg", "-n", "0"]).tree.find?
        ["home", "beds"] = some .folder := by
  refine ⟨?_, ?_, ?_, ?_⟩ <;> decide +kernel

end CommandLine

end PlantDrawing
