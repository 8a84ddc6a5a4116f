import PlantDrawing.Arithmetic
import PlantDrawing.JsonText
import PlantDrawing.Quoted
import PlantDrawing.Word

/-!
# Faults

Everything that can go wrong between a grammar and its drawing, by cause. A
fault carries what its wording needs and nothing else; the wording itself is
`Fault.message`.
-/

namespace PlantDrawing

/-- What can be wrong with a grammar. -/
inductive GrammarFault where
  | emptyStart
  | negativeMaxIterations
  | unbalancedStart
  | keyLength (key : Word)
  | bracketKey (key : Word)
  | unbalancedReplacement (key replacement : Word)
  deriving DecidableEq, Repr

/-- The kinds of value that a setting can ask for. -/
inductive ValueKind where
  | number
  | integer
  | string
  | boolean
  | object
  deriving DecidableEq, Repr

/-- What can be wrong with a setting, an option or a box. -/
inductive ConfigFault where
  | wrongKind (setting : String) (expected : ValueKind)
  | negative (setting : String)
  | notPositive (setting : String)
  | precisionRange
  | fadeRange
  | unknownKeys (place : String) (keys : List Text)
  | invalidJson (path : String) (fault : Json.SyntaxFault)
  | emptyBox
  | degenerateBox
  deriving DecidableEq, Repr

/-- Why a drawing could not be made. -/
inductive Fault where
  | config (cause : ConfigFault)
  | grammar (name : String) (cause : GrammarFault)
  | duplicateGrammar (name : String)
  | unknownGrammar (name : String) (known : List String)
  | expansionLimit (grammar : String) (limit : Int) (generation requested : Nat)
  | unbalancedBranch (drawn : Nat)
  | arithmetic (cause : ArithmeticFault)
  /-- A number was to be printed with a count of digits that no number has. -/
  | digitCount
  /-- A file was to be read as text and holds bytes that are no text. -/
  | undecodable
  /-- A file of options goes beyond the runtime. -/
  | tooNested
  | tooManyDigits
  /-- A text was to be written that holds half of a surrogate pair. -/
  | unencodable
  deriving DecidableEq, Repr

/-- The wording of what is wrong with a grammar. -/
def GrammarFault.message : GrammarFault → String
  | emptyStart => "axiom must be non-empty"
  | negativeMaxIterations => "max_iterations must be >= 0"
  | unbalancedStart => "axiom has unbalanced brackets"
  | keyLength key => "rule keys must be single characters, got " ++ Quoted.quote key
  | bracketKey key => "bracket symbol " ++ Quoted.quote key ++ " cannot be rewritten"
  | unbalancedReplacement key replacement =>
    "rule " ++ Quoted.quote key ++ " -> " ++ Quoted.quote replacement ++ " has unbalanced brackets"

/-- A kind of value with its article. -/
def ValueKind.phrase : ValueKind → String
  | number => "a number"
  | integer => "an integer"
  | string => "a string"
  | boolean => "a boolean"
  | object => "an object"

/-- The wording of what is wrong with a setting. -/
def ConfigFault.message : ConfigFault → String
  | wrongKind setting expected => setting ++ " must be " ++ expected.phrase
  | negative setting => setting ++ " must be >= 0"
  | notPositive setting => setting ++ " must be > 0"
  | precisionRange => "precision must be between 0 and 10"
  | fadeRange => "depth_fade must be in (0, 1]"
  | unknownKeys place keys => "unknown " ++ place ++ " keys: " ++ ", ".intercalate (keys.map Text.shown)
  | invalidJson path fault => "Invalid JSON in " ++ path ++ ": " ++ fault.message
  | emptyBox => "cannot pad an empty bounding box"
  | degenerateBox =>
    "Degenerate bounds after margin (width or height is zero). " ++
      "Set margin > 0 to render collinear geometry."

/-- The wording of a fault. -/
def Fault.message : Fault → String
  | config cause => cause.message
  | grammar name cause => "grammar " ++ quoted name ++ ": " ++ cause.message
  | duplicateGrammar name => "duplicate grammar " ++ quoted name
  | unknownGrammar name known =>
    "unknown grammar " ++ quoted name ++ "; choose one of: " ++ ", ".intercalate known
  | expansionLimit name limit generation requested =>
    "grammar " ++ quoted name ++ " exceeds " ++ toString limit ++ " symbols at generation " ++
      toString generation ++ " (requested " ++ toString requested ++ ")"
  | unbalancedBranch drawn =>
    "']' encountered with empty branch stack after " ++ toString drawn ++ " segments"
  | arithmetic cause => cause.message
  | digitCount => "a number cannot be printed with that many digits"
  | undecodable => "the file is not valid UTF-8 text"
  | tooNested => "the file has too many arrays and objects in one another"
  | tooManyDigits => "the file has a whole number with too many digits"
  | unencodable => "a text holds half of a surrogate pair"

end PlantDrawing
