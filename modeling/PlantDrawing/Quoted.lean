import PlantDrawing.Printable

/-!
# Quoted text

Messages show a text that came from outside in quotes, with every character
that has no shape of its own spelled as an escape, so that the message stays on
one line and the text can be read off it.
-/

namespace PlantDrawing.Quoted

/-- The quote around a text: the single one, unless the text holds single
    quotes and no double ones. -/
def quoteFor (text : List Char) : Char :=
  if '\'' ∈ text ∧ '"' ∉ text then '"' else '\''

/-- The code point in lower-case hexadecimal, filled with zeros to `width`
    digits. -/
def hexadecimal (width : Nat) (code : Nat) : List Char :=
  let digits := Nat.toDigits 16 code
  List.replicate (width - digits.length) '0' ++ digits

/-- The escape of a character without a shape: two, four or eight hexadecimal
    digits, the fewest that hold its code point. -/
def escaped (c : Char) : List Char :=
  if c.toNat < 0x100 then '\\' :: 'x' :: hexadecimal 2 c.toNat
  else if c.toNat < 0x10000 then '\\' :: 'u' :: hexadecimal 4 c.toNat
  else '\\' :: 'U' :: hexadecimal 8 c.toNat

/-- How one character is written between the given quotes. -/
def spelling (quote c : Char) : List Char :=
  if c = quote ∨ c = '\\' then ['\\', c]
  else if c = '\n' then ['\\', 'n']
  else if c = '\r' then ['\\', 'r']
  else if c = '\t' then ['\\', 't']
  else if Printable.isPrintable c then [c]
  else escaped c

/-- The quoted form of a text. -/
def quote (text : List Char) : String :=
  let mark := quoteFor text
  String.ofList (mark :: text.flatMap (spelling mark) ++ [mark])

end PlantDrawing.Quoted

namespace PlantDrawing

/-- The quoted form of a string. -/
def quoted (text : String) : String :=
  Quoted.quote text.toList

end PlantDrawing
