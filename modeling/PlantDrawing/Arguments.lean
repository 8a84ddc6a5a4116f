import PlantDrawing.ArgumentNumber
import PlantDrawing.Catalog
import PlantDrawing.Quoted
import PlantDrawing.Runtime

/-!
# The grammar of the arguments

The arguments of the program are a command and what belongs to it: words in
their places, and options with a value each. An option may be shortened as long
as no other begins alike, its value may be joined to it, and an option given
twice counts as given the last time. After the separator `--` everything is a
word.

Reading the arguments has two steps. `classify` tells words from options, one
argument at a time. `readTokens` then gives the words their places and the
options their values, from left to right, and stops at the first misuse.
-/

namespace PlantDrawing

/-- The options of the program. -/
inductive OptionName where
  | help
  | iterations
  | preset
  | step
  | scale
  | strokeWidth
  | options
  | seed
  deriving DecidableEq, Repr

/-- The places for words. -/
inductive PlaceName where
  | grammar
  | output
  deriving DecidableEq, Repr

/-- The commands of the program. -/
inductive CommandName where
  | list
  | render
  | validate
  | random
  deriving DecidableEq, Repr

/-- What the arguments say of one thing: nothing, the separator in place of a
    value, or a value. -/
inductive Slot (α : Type) where
  | absent
  | blank
  | filled (value : α)
  deriving DecidableEq, Repr

/-- Everything that can be given, each thing at most once. -/
structure Given where
  grammar : Slot String := .absent
  output : Slot String := .absent
  iterations : Slot Int := .absent
  preset : Slot String := .absent
  step : Slot Float := .absent
  scale : Slot Float := .absent
  strokeWidth : Slot Float := .absent
  options : Slot String := .absent
  seed : Slot Int := .absent
  deriving DecidableEq

/-! ## What each command takes -/

namespace OptionName

/-- The spellings of an option, the short one first. -/
def spellings : OptionName → List String
  | help => ["-h", "--help"]
  | iterations => ["-n", "--iterations"]
  | preset => ["--preset"]
  | step => ["--step"]
  | scale => ["--scale"]
  | strokeWidth => ["--stroke-width"]
  | options => ["--options"]
  | seed => ["--seed"]

/-- How a message names an option. -/
def title (name : OptionName) : String :=
  "/".intercalate name.spellings

end OptionName

/-- How a message names a place. -/
def PlaceName.title : PlaceName → String
  | grammar => "grammar"
  | output => "output"

namespace CommandName

/-- All commands. -/
def all : List CommandName := [list, render, validate, random]

/-- The word that calls a command. -/
def word : CommandName → String
  | list => "list"
  | render => "render"
  | validate => "validate"
  | random => "random"

/-- The options that a command takes. -/
def options : CommandName → List OptionName
  | list => [.help]
  | render => [.help, .iterations, .preset, .step, .scale, .strokeWidth, .options]
  | validate => [.help, .iterations, .preset, .step, .scale, .strokeWidth]
  | random => [.help, .seed, .options]

/-- The words that a command needs, in order. -/
def places : CommandName → List PlaceName
  | list => []
  | render => [.grammar, .output]
  | validate => [.grammar]
  | random => [.output]

end CommandName

/-! ## Misuse -/

/-- What can be wrong with the arguments. -/
inductive Misuse where
  | ambiguous (argument : String) (candidates : List String)
  | expectedValue (option : OptionName)
  | unwantedValue (value : String)
  | notInteger (option : OptionName) (value : String)
  | notNumber (option : OptionName) (value : String)
  | notPreset (value : String)
  | notCommand (word : String)
  | required (titles : List String)
  | unrecognized (arguments : List String)
  deriving DecidableEq, Repr

/-- The choice that a message offers. -/
def choice (names : List String) : String :=
  "(choose from " ++ ", ".intercalate (names.map quoted) ++ ")"

/-- The wording of a misuse. -/
def Misuse.message : Misuse → String
  | ambiguous argument candidates =>
    "ambiguous option: " ++ argument ++ " could match " ++ ", ".intercalate candidates
  | expectedValue option => "argument " ++ option.title ++ ": expected one argument"
  | unwantedValue value =>
    "argument " ++ OptionName.help.title ++ ": ignored explicit argument " ++ quoted value
  | notInteger option value => "argument " ++ option.title ++ ": invalid int value: " ++ quoted value
  | notNumber option value => "argument " ++ option.title ++ ": invalid float value: " ++ quoted value
  | notPreset value =>
    "argument " ++ OptionName.preset.title ++ ": invalid choice: " ++ quoted value ++ " " ++
      choice (Catalog.presets.map (·.1))
  | notCommand word =>
    "argument cmd: invalid choice: " ++ quoted word ++ " " ++ choice (CommandName.all.map (·.word))
  | required titles => "the following arguments are required: " ++ ", ".intercalate titles
  | unrecognized arguments => "unrecognized arguments: " ++ " ".intercalate arguments

/-! ## Words and options -/

/-- What is joined to an option: nothing, a text after an equals sign, or the
    letters that follow its own. A short option does not tell the last two
    apart. -/
inductive Joined where
  | nothing
  | value (text : String)
  | letters (text : String)
  deriving DecidableEq, Repr

/-- An argument on its own: a word, the separator, or an option. An option that
    is not known keeps the whole argument. -/
inductive Token where
  | word (text : String)
  | separator
  | option (name : OptionName) (joined : Joined)
  | unknown (argument : String)
  deriving DecidableEq, Repr

namespace Token

/-- The option with exactly a given spelling. -/
def spelled? (options : List OptionName) (spelling : String) : Option OptionName :=
  options.find? fun name => name.spellings.contains spelling

/-- An argument cut at its first equals sign. -/
def cutValue (argument : String) : String × Joined :=
  let characters := argument.toList
  let name := characters.takeWhile (· ≠ '=')
  match characters.drop name.length with
  | [] => (argument, .nothing)
  | _ :: value => (String.ofList name, .value (String.ofList value))

/-- The options with a spelling that begins with a given text, each with that
    spelling. -/
def beginning (options : List OptionName) (start : String) : List (OptionName × String) :=
  options.flatMap fun name =>
    (name.spellings.filter fun spelling => start.toList.isPrefixOf spelling.toList).map fun spelling =>
      (name, spelling)

/-- Every reading of an argument as an option, with the spelling it stands for.
    One with two dashes may be shortened; one with a single dash is one letter
    with more joined to it. -/
def readings (options : List OptionName) (argument : String) :
    List (OptionName × String × Joined) :=
  match argument.toList with
  | '-' :: '-' :: _ =>
    let (start, joined) := cutValue argument
    (beginning options start).map fun (name, spelling) => (name, spelling, joined)
  | '-' :: letter :: more =>
    let spelling := String.ofList ['-', letter]
    match spelled? options spelling with
    | some name => [(name, spelling, .letters (String.ofList more))]
    | none => []
  | _ => []

/-- A text without a newline at its very end. -/
def dropFinalNewline (text : List Char) : List Char :=
  match text.reverse with
  | '\n' :: rest => rest.reverse
  | _ => text

/-- Whether an argument looks like a negative number: a dash, then digits with
    perhaps a point among or before them. -/
def looksNegative (argument : String) : Bool :=
  match dropFinalNewline argument.toList with
  | '-' :: rest =>
    let whole := rest.takeWhile DecimalDigit.isDecimal
    match rest.drop whole.length with
    | [] => !whole.isEmpty
    | '.' :: fraction => !fraction.isEmpty && fraction.all DecimalDigit.isDecimal
    | _ => false
  | _ => false

/-- An argument that begins with a dash and is no exact spelling. It is an
    option if it can be read as one, a word if it is a negative number or holds
    a space, and otherwise an option that is not known. -/
def ofDashed (options : List OptionName) (argument : String) : Except Misuse Token :=
  match readings options argument with
  | [(name, _, joined)] => .ok (.option name joined)
  | [] =>
    if looksNegative argument || argument.toList.contains ' ' then .ok (.word argument)
    else .ok (.unknown argument)
  | several => .error (.ambiguous argument (several.map fun (_, spelling, _) => spelling))

/-- Whether a spelling is the short one: a dash and a letter. -/
def isShort (spelling : String) : Bool :=
  spelling.length == 2

/-- An argument that begins with a dash and goes on. -/
def classifyDashed (options : List OptionName) (argument : String) : Except Misuse Token :=
  match spelled? options argument with
  | some name => .ok (.option name .nothing)
  | none =>
    match cutValue argument with
    | (start, .value text) =>
      match spelled? options start with
      | some name => .ok (.option name (if isShort start then .letters text else .value text))
      | none => ofDashed options argument
    | _ => ofDashed options argument

/-- One argument in front of the separator. Only one that begins with a dash and
    goes on can be anything but a word. -/
def classify (options : List OptionName) (argument : String) : Except Misuse Token :=
  if argument = "--" then .ok .separator
  else
    match argument.toList with
    | '-' :: _ :: _ => classifyDashed options argument
    | _ => .ok (.word argument)

/-- All arguments. After the separator every one is a word. -/
def classifyAll (options : List OptionName) : List String → Except Misuse (List Token)
  | [] => .ok []
  | argument :: rest => do
    let token ← classify options argument
    if token = .separator then .ok (.separator :: rest.map .word)
    else
      let others ← classifyAll options rest
      .ok (token :: others)

end Token

/-! ## Values -/

namespace Given

/-- Puts a word in its place. -/
def place (given : Given) (name : PlaceName) (word : Slot String) : Given :=
  match name with
  | .grammar => { given with grammar := word }
  | .output => { given with output := word }

/-- The integer that an option is given. -/
def toInteger (runtime : Runtime) (option : OptionName) (text : String) : Except Misuse Int :=
  match ArgumentNumber.int? runtime.digits text with
  | some n => .ok n
  | none => .error (.notInteger option text)

/-- The number that an option is given. -/
def toNumber (option : OptionName) (text : String) : Except Misuse Float :=
  match ArgumentNumber.double? text with
  | some x => .ok x
  | none => .error (.notNumber option text)

/-- The name of settings that an option is given. -/
def toPreset (text : String) : Except Misuse String :=
  if (Catalog.preset? text).isSome then .ok text else .error (.notPreset text)

/-- The slot of an option that is given a text. The separator is never
    converted: it leaves the slot blank. -/
def slot {α : Type} (convert : String → Except Misuse α) (text : String) : Except Misuse (Slot α) :=
  if text = "--" then .ok .blank else (convert text).map .filled

/-- Gives an option its value, in place of an earlier one. -/
def set (given : Given) (runtime : Runtime) (option : OptionName) (text : String) : Except Misuse Given :=
  match option with
  | .help => .ok given
  | .iterations => (slot (toInteger runtime option) text).map fun n => { given with iterations := n }
  | .preset => (slot toPreset text).map fun name => { given with preset := name }
  | .step => (slot (toNumber option) text).map fun x => { given with step := x }
  | .scale => (slot (toNumber option) text).map fun x => { given with scale := x }
  | .strokeWidth => (slot (toNumber option) text).map fun x => { given with strokeWidth := x }
  | .options => (slot .ok text).map fun path => { given with options := path }
  | .seed => (slot (toInteger runtime option) text).map fun n => { given with seed := n }

end Given

/-! ## Reading -/

/-- What reading the arguments of a command comes to. -/
inductive Reading where
  | help
  /-- What was given, and the arguments that have no place. -/
  | complete (given : Given) (extra : List String)
  deriving DecidableEq

/-- Letters joined to a request for help ask for more options. An option that
    takes a value must have it, from the letters after it or from a word that
    follows; a letter that is no option makes the rest a value, and help takes
    none. -/
def readHelpLetters (options : List OptionName) (wordFollows : Bool) :
    List Char → Except Misuse Reading
  | [] => .ok .help
  | letter :: rest =>
    match Token.spelled? options (String.ofList ['-', letter]), rest with
    | none, _ => .error (.unwantedValue (String.ofList (letter :: rest)))
    | some .help, _ => readHelpLetters options wordFollows rest
    | some option, [] => if wordFollows then .ok .help else .error (.expectedValue option)
    | some _, _ => .ok .help

/-- A request for help with what is joined to it. It takes no value, not even an
    empty one. -/
def readHelp (options : List OptionName) (joined : Joined) (wordFollows : Bool) :
    Except Misuse Reading :=
  match joined with
  | .nothing => .ok .help
  | .value text => .error (.unwantedValue text)
  | .letters text =>
    if text = "" then .error (.unwantedValue text)
    else readHelpLetters options wordFollows text.toList

/-- Whether a word comes first. -/
def beginsWithWord : List Token → Bool
  | .word _ :: _ => true
  | _ => false

/-- What a token has directly in front of it, where that matters. -/
inductive Before where
  | placedWord
  | separator
  | other
  deriving DecidableEq, Repr

/-- The word in a place. The separator itself is no word, unless it stands behind
    another separator. -/
def wordOf (before : Before) (text : String) : Slot String :=
  if text = "--" ∧ before ≠ .separator then .blank else .filled text

/-- Gives words their places and options their values. `places` are those still
    empty, and `extra` the arguments without a place, the last one first. A
    separator goes unnoticed next to a word that finds its place. -/
def readTokens (runtime : Runtime) (options : List OptionName) (given : Given) (places : List PlaceName)
    (extra : List String) (before : Before) : List Token → Except Misuse Reading
  | [] =>
    if places.isEmpty then .ok (.complete given extra.reverse)
    else .error (.required (places.map (·.title)))
  | .word text :: rest =>
    match places with
    | [] => readTokens runtime options given [] (text :: extra) .other rest
    | name :: others =>
      readTokens runtime options (given.place name (wordOf before text)) others extra .placedWord rest
  | .separator :: rest =>
    if before = .placedWord then readTokens runtime options given places extra .other rest
    else if !places.isEmpty && beginsWithWord rest then
      readTokens runtime options given places extra .separator rest
    else readTokens runtime options given places ("--" :: extra) .other rest
  | .unknown argument :: rest => readTokens runtime options given places (argument :: extra) .other rest
  | .option .help joined :: rest => readHelp options joined (beginsWithWord rest)
  | .option name (.value text) :: rest => do
    let given ← given.set runtime name text
    readTokens runtime options given places extra .other rest
  | .option name (.letters text) :: rest => do
    let given ← given.set runtime name text
    readTokens runtime options given places extra .other rest
  | .option name .nothing :: .word text :: rest => do
    let given ← given.set runtime name text
    readTokens runtime options given places extra .other rest
  | .option name .nothing :: _ => .error (.expectedValue name)

/-- Reads the arguments of a command. -/
def CommandName.read (command : CommandName) (runtime : Runtime) (arguments : List String) :
    Except Misuse Reading := do
  let tokens ← Token.classifyAll command.options arguments
  readTokens runtime command.options {} command.places [] .other tokens

/-! ## The whole line -/

/-- What the whole line of arguments asks for. -/
inductive Request where
  /-- Help, on one command or on the program. -/
  | help (command : Option CommandName)
  | run (command : CommandName) (given : Given)
  deriving DecidableEq

/-- A misuse, and the command whose arguments it was found in. -/
structure UsageFault where
  command : Option CommandName
  misuse : Misuse
  deriving DecidableEq, Repr

/-- The request of a command with its arguments, after others that have no
    place. -/
def requestOf (runtime : Runtime) (extra : List String) (command : CommandName) (arguments : List String) :
    Except UsageFault Request := do
  let reading ← (command.read runtime arguments).mapError (UsageFault.mk (some command))
  match reading with
  | .help => .ok (.help (some command))
  | .complete given more =>
    if (extra ++ more).isEmpty then .ok (.run command given)
    else .error ⟨none, .unrecognized (extra ++ more)⟩

/-- Finds the command in a line of arguments: the first word. `extra` are the
    arguments before it, the last one first. The separator in front of the
    command would be taken for it. -/
def readLine (runtime : Runtime) (extra : List String) : List String → Except UsageFault Request
  | [] => .error ⟨none, .required ["cmd"]⟩
  | argument :: rest => do
    let token ← (Token.classify [.help] argument).mapError (UsageFault.mk none)
    match token with
    | .word text =>
      match CommandName.all.find? (·.word = text) with
      | some command => requestOf runtime extra.reverse command rest
      | none => .error ⟨none, .notCommand text⟩
    | .separator =>
      if rest.isEmpty then .error ⟨none, .required ["cmd"]⟩ else .error ⟨none, .notCommand "--"⟩
    | .unknown text => readLine runtime (text :: extra) rest
    | .option _ joined =>
      let _ ← (readHelp [.help] joined false).mapError (UsageFault.mk none)
      .ok (.help none)

/-- What a line of arguments asks for. -/
def Request.ofArguments (runtime : Runtime) (arguments : List String) : Except UsageFault Request :=
  readLine runtime [] arguments

end PlantDrawing
