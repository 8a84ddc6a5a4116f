import PlantDrawing.Quoted

/-!
# Texts from outside

What a JSON file spells as a string is a row of code points. Mostly these are characters,
and the row is a string. But an escape can also spell half of a surrogate pair, and such
a half may stand alone. No string holds it then, and no text in UTF-8 can.
-/

namespace PlantDrawing

/-- A character, or half of a surrogate pair: one of the 2048 code points that are no
    characters. -/
inductive CodePoint where
  | character (c : Char)
  | half (offset : Fin 0x800)
  deriving DecidableEq, Repr

namespace CodePoint

/-- The number of a code point. -/
def number : CodePoint → Nat
  | character c => c.toNat
  | half offset => 0xD800 + offset

/-- The code point of four hexadecimal digits. -/
def ofUnit (unit : Nat) : CodePoint :=
  if inside : 0xD800 ≤ unit ∧ unit < 0xE000 then half ⟨unit - 0xD800, by omega⟩
  else character (Char.ofNat unit)

/-- Whether a code point is half of a pair. -/
def isHalf : CodePoint → Bool
  | character _ => false
  | half _ => true

/-- A code point that is a character. -/
def character? : CodePoint → Option Char
  | character c => some c
  | half _ => none

/-- A code point as the error output shows it: a half by its escape. -/
def spelling : CodePoint → List Char
  | character c => [c]
  | half offset => '\\' :: 'u' :: Quoted.hexadecimal 4 (0xD800 + offset)

end CodePoint

/-- A string, or code points that are none. -/
inductive Text where
  | string (content : String)
  | broken (points : List CodePoint) (stray : points.any CodePoint.isHalf = true)
  deriving DecidableEq, Repr

instance : Coe String Text := ⟨.string⟩

namespace Text

/-- The text of a row of code points. -/
def ofPoints (points : List CodePoint) : Text :=
  if stray : points.any CodePoint.isHalf = true then broken points stray
  else string (String.ofList (points.filterMap CodePoint.character?))

/-- The numbers of the code points of a text. Texts are in the order of these. -/
def numbers : Text → List Nat
  | string content => content.toList.map Char.toNat
  | broken points _ => points.map CodePoint.number

instance : LT Text := ⟨fun first second => List.lt first.numbers second.numbers⟩

instance : LE Text := ⟨fun first second => List.le first.numbers second.numbers⟩

instance (first second : Text) : Decidable (first ≤ second) :=
  List.decidableLE first.numbers second.numbers

/-- A text as the error output shows it. -/
def shown : Text → String
  | string content => content
  | broken points _ => String.ofList (points.flatMap CodePoint.spelling)

/-- The string that a text is. -/
def string? : Text → Option String
  | string content => some content
  | broken .. => none

end Text

end PlantDrawing
