import PlantDrawing.DecimalDigit
import PlantDrawing.Double
import PlantDrawing.Numeral

/-!
# Numbers among the arguments

A number on the command line may have blanks around it, a sign, underscores
between its digits, and digits of any script. A number with a fraction may also
be infinite, or no number at all, by name.
-/

namespace PlantDrawing.ArgumentNumber

/-- The plain form of a character: digits of all scripts become those of the
    first 128 characters, and blanks of all scripts the space. Other characters
    stay; beyond the first 128, none of them is part of a number. -/
def plainCharacter (c : Char) : Char :=
  if c.toNat < 128 then c
  else if DecimalDigit.wideBlanks.contains c.toNat then ' '
  else
    match DecimalDigit.value? c with
    | some digit => DecimalDigit.ascii digit
    | none => c

/-- Whether a plain character is a blank. -/
def isBlank (c : Char) : Bool :=
  c = ' ' || (9 ≤ c.toNat && c.toNat ≤ 13)

/-- The plain characters of an argument without the blanks around it. -/
def plain (text : String) : List Char :=
  (((text.toList.map plainCharacter).dropWhile isBlank).reverse.dropWhile isBlank).reverse

/-- The sign in front of a number, and the rest. -/
def readSign : List Char → Bool × List Char
  | '-' :: rest => (true, rest)
  | '+' :: rest => (false, rest)
  | text => (false, text)

/-- A text without its underscores, each of which must stand between two
    digits. `afterDigit` tells what stands in front of the text. -/
def dropUnderscores (afterDigit : Bool) : List Char → Option (List Char)
  | [] => some []
  | '_' :: next :: rest =>
    if afterDigit && Numeral.isDigit next then dropUnderscores false (next :: rest) else none
  | ['_'] => none
  | c :: rest => (dropUnderscores (Numeral.isDigit c) rest).map (c :: ·)

/-- The whole number that an argument holds. It has no more digits than `most`. -/
def int? (most : Nat) (text : String) : Option Int := do
  let (negative, unsigned) := readSign (plain text)
  let digits ← dropUnderscores false unsigned
  if digits.isEmpty || !digits.all Numeral.isDigit || most < digits.length then none
  else some (if negative then -(Numeral.value digits : Int) else Numeral.value digits)

/-- The numbers that have names, in any mixture of cases. -/
def named? (word : List Char) : Option Float :=
  match String.ofList (word.map Char.toLower) with
  | "inf" => some Double.infinity
  | "infinity" => some Double.infinity
  | "nan" => some Double.notANumber
  | _ => none

/-- The exponent at the end of a number; no exponent stands for zero. -/
def exponent? : List Char → Option Int
  | [] => some 0
  | mark :: rest =>
    if mark = 'e' ∨ mark = 'E' then
      let (negative, digits) := readSign rest
      if digits.isEmpty || !digits.all Numeral.isDigit then none
      else some (if negative then -(Numeral.value digits : Int) else Numeral.value digits)
    else none

/-- The digits after a point, if there is one, and the rest. -/
def readFraction : List Char → List Char × List Char
  | '.' :: rest => Numeral.span rest
  | text => ([], text)

/-- The number that an unsigned text without underscores holds. -/
def magnitude? (negative : Bool) (text : List Char) : Option Float := do
  let (whole, afterWhole) := Numeral.span text
  let (fraction, afterFraction) := readFraction afterWhole
  let exponent ← exponent? afterFraction
  if whole.isEmpty && fraction.isEmpty then none
  else some (Numeral.toDouble negative whole fraction exponent)

/-- The double that an argument holds. -/
def double? (text : String) : Option Float := do
  let digits ← dropUnderscores false (plain text)
  let (negative, unsigned) := readSign digits
  match named? unsigned with
  | some x => some (if negative then -x else x)
  | none => magnitude? negative unsigned

end PlantDrawing.ArgumentNumber
