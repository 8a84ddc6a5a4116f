import PlantDrawing.Fault
import PlantDrawing.SvgOptions

/-!
# Options as a JSON object

Options come from outside as a JSON object. A key that is absent stands for the
default; a key that no option has is refused. Each value must be of the right
kind and within its limits. The checks run in a fixed order, and the first that
fails is the one reported: the object and its keys, then the options one after
another, the style and its own keys last.
-/

namespace PlantDrawing

namespace Json

/-- Refuses a value that is not of the kind a setting asks for. -/
def refuse {α : Type} (setting : String) (expected : ValueKind) : Except Fault α :=
  .error (.config (.wrongKind setting expected))

/-- A number as a double. A whole number must not be too large for one. -/
def toNumber (setting : String) : Json → Except Fault Float
  | .int n => (Double.ofInt n).mapError .arithmetic
  | .double x => .ok x
  | _ => refuse setting .number

/-- A whole number, written as one. -/
def toInteger (setting : String) : Json → Except Fault Int
  | .int n => .ok n
  | _ => refuse setting .integer

/-- A string. -/
def toText (setting : String) : Json → Except Fault Text
  | .str s => .ok s
  | _ => refuse setting .string

/-- A truth value. -/
def toTruth (setting : String) : Json → Except Fault Bool
  | .bool b => .ok b
  | _ => refuse setting .boolean

/-- The members of an object. -/
def toMembers (setting : String) : Json → Except Fault (List (Text × Json))
  | .obj members => .ok members
  | _ => refuse setting .object

end Json

namespace SvgOptions

open Json (member?)

/-- The keys of the options. -/
def keys : List Text :=
  ["margin", "precision", "flip_y", "rotate", "width", "height", "background", "depth_fade", "style"]

/-- The keys of the style. -/
def styleKeys : List Text :=
  ["stroke", "stroke_linecap", "stroke_linejoin"]

/-- Refuses keys other than the known ones, and names them all in increasing
    order. -/
def checkKeys (place : String) (known : List Text) (members : List (Text × Json)) :
    Except Fault Unit :=
  let unknown := (members.map (·.1)).filter fun key => !known.contains key
  if unknown.isEmpty then .ok ()
  else .error (.config (.unknownKeys place (unknown.eraseDups.mergeSort fun a b => decide (a ≤ b))))

/-- Refuses what does not keep a limit. -/
def require (holds : Prop) [Decidable holds] (fault : ConfigFault) : Except Fault Unit :=
  if holds then .ok () else .error (.config fault)

/-- The value of a key, or the default if the key is absent. -/
def optional {α : Type} (members : List (Text × Json)) (key : String) (default : α)
    (convert : String → Json → Except Fault α) : Except Fault α :=
  match member? members key with
  | none => .ok default
  | some value => convert key value

/-- A size: absent or null for none, else a number above zero. -/
def size (members : List (Text × Json)) (key : String) : Except Fault (Option Float) :=
  match member? members key with
  | none => .ok none
  | some .null => .ok none
  | some value => do
    let x ← value.toNumber key
    require (0 < x) (.notPositive key)
    .ok (some x)

/-- A background: absent or null for none, else a string. -/
def paint (members : List (Text × Json)) (key : String) : Except Fault (Option Text) :=
  match member? members key with
  | none => .ok none
  | some .null => .ok none
  | some value => (value.toText key).map some

/-- A string of the style. -/
def styleText (members : List (Text × Json)) (key : String) (default : Text) : Except Fault Text :=
  match member? members key with
  | none => .ok default
  | some value => value.toText ("style." ++ key)

/-- The style that an object describes. -/
def readStyle (value : Json) : Except Fault StrokeStyle := do
  let members ← value.toMembers "style"
  checkKeys "style" styleKeys members
  let default : StrokeStyle := {}
  let color ← styleText members "stroke" default.color
  let linecap ← styleText members "stroke_linecap" default.linecap
  let linejoin ← styleText members "stroke_linejoin" default.linejoin
  .ok ⟨color, linecap, linejoin⟩

/-- The options that a JSON value describes. -/
def ofJson (value : Json) : Except Fault SvgOptions := do
  let members ← value.toMembers "options"
  checkKeys "option" keys members
  let default : SvgOptions := {}
  let margin ← optional members "margin" default.margin Json.toNumber
  require (0 ≤ margin) (.negative "margin")
  let precision ← optional members "precision" default.precision Json.toInteger
  require (0 ≤ precision ∧ precision ≤ 10) .precisionRange
  let flipY ← optional members "flip_y" default.flipY Json.toTruth
  let rotation ← optional members "rotate" default.rotation Json.toNumber
  let width ← size members "width"
  let height ← size members "height"
  let background ← paint members "background"
  let fade ← optional members "depth_fade" default.fade Json.toNumber
  require (0 < fade ∧ fade ≤ 1) .fadeRange
  let style ← readStyle ((member? members "style").getD (.obj []))
  .ok ⟨margin, precision, flipY, rotation, width, height, background, fade, style⟩

/-! ## Option files -/

/-- A text with every end of a line written as a single newline. -/
def unifyLines : List Char → List Char
  | '\r' :: '\n' :: rest => '\n' :: unifyLines rest
  | '\r' :: rest => '\n' :: unifyLines rest
  | c :: rest => c :: unifyLines rest
  | [] => []

/-- Why the options in a file cannot be read as JSON. -/
def readFault (path : String) : Json.ReadFault → Fault
  | .malformed fault => .config (.invalidJson path fault)
  | .tooNested => .tooNested
  | .tooManyDigits => .tooManyDigits

/-- The options in the text of a file; the path is for the report of a fault. -/
def ofText (runtime : Runtime) (path text : String) : Except Fault SvgOptions := do
  let value ← (Json.read runtime (String.ofList (unifyLines text.toList))).mapError (readFault path)
  ofJson value

/-- The options in a file that must be text in UTF-8. -/
def ofBytes (runtime : Runtime) (path : String) (bytes : ByteArray) : Except Fault SvgOptions :=
  match String.fromUTF8? bytes with
  | some text => ofText runtime path text
  | none => .error .undecodable

end SvgOptions

end PlantDrawing
