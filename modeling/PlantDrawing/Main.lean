import PlantDrawing.CommandLine

/-!
# The program

Hands the arguments, the options file and the answer between the system and
`Command.answer`.
-/

namespace PlantDrawing.Main

/-- The number of an error among those of the system, and the words for it. -/
def describe : IO.Error → Nat × String
  | .alreadyExists _ number words | .otherError number words | .resourceBusy number words
  | .resourceVanished number words | .unsupportedOperation number words | .hardwareFault number words
  | .unsatisfiedConstraints number words | .illegalOperation number words
  | .protocolError number words | .timeExpired number words | .interrupted _ number words
  | .noFileOrDirectory _ number words | .invalidArgument _ number words
  | .permissionDenied _ number words | .resourceExhausted _ number words
  | .inappropriateType _ number words | .noSuchThing _ number words => (number.toNat, words)
  | .unexpectedEof => (5, "Input/output error")
  | .userError words => (5, words)

/-- The problem behind an error of the system. -/
def problemOf (error : IO.Error) : FileProblem :=
  let (number, words) := describe error
  .ofNumber words number

/-- Does something with the file at a path and catches an error of the
    system. -/
def attempt {α : Type} (path : String) (action : IO α) : IO (Except FileFault α) := do
  try
    return .ok (← action)
  catch error => return .error ⟨problemOf error, path⟩

/-- Writes a file, in folders that are made if they are missing. A file whose text cannot
    be encoded is left empty. -/
def writeFile (file : OutputFile) : IO (Except Failure Unit) := do
  let current := FileTree.nominalPlace [] (toString (← IO.currentDir))
  let folder := Place.path (FileTree.nominalPlace current file.path).dropLast
  match ← attempt folder (IO.FS.createDirAll folder) with
  | .error fault => return .error (.file fault)
  | .ok () =>
    match ← attempt file.path (IO.FS.writeFile file.path (file.text.getD "")) with
    | .error fault => return .error (.file fault)
    | .ok () => return if file.text.isSome then .ok () else .error (.fault .unencodable)

/-- Reports a failure. -/
def fail (failure : Failure) : IO UInt32 := do
  match failure.report? with
  | some line =>
    IO.eprintln line
    return 2
  | none =>
    IO.eprintln failure.message
    return 1

/-- Runs a command. -/
def runCommand (command : CommandName) (given : Given) : IO UInt32 := do
  let options ← match given.options with
    | .filled path => attempt path (IO.FS.readBinFile path)
    | _ => pure (.ok ByteArray.empty)
  let answer := Command.answer .usual (fun _ => options) (← IO.monoNanosNow) given command
  IO.print answer.printed
  match answer.result with
  | .error failure => fail failure
  | .ok none => return 0
  | .ok (some file) =>
    match ← writeFile file with
    | .error failure => fail failure
    | .ok () => return 0

end PlantDrawing.Main

/-- Draws plants from grammars. -/
def main (arguments : List String) : IO UInt32 := do
  match PlantDrawing.Request.ofArguments .usual arguments with
  | .error fault =>
    IO.eprint (PlantDrawing.CommandLine.usageReport fault)
    return 2
  | .ok (.help command) =>
    IO.print (PlantDrawing.HelpText.text command)
    return 0
  | .ok (.run command given) => PlantDrawing.Main.runCommand command given
