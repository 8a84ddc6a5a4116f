import PlantDrawing.Double
import PlantDrawing.Json
import PlantDrawing.Numeral
import PlantDrawing.Runtime

/-!
# The text form of JSON

`Json.read` reads a text as one JSON value with blanks around it. A text that is
no such value is refused at the first place that rules it out, and the refusal
says what is wrong there and where the place is: its line, its column and its
distance from the start, all counted in characters. A text that goes beyond the
runtime is refused too, at the first bracket or number that does so.

Three forms go beyond the standard: `NaN`, `Infinity` and `-Infinity` are
numbers.
-/

namespace PlantDrawing.Json

/-- What can be wrong with a JSON text. -/
inductive Problem where
  | byteOrderMark
  | value
  | propertyName
  | colon
  | comma
  | extraData
  | unterminatedString
  | controlCharacter
  | escape
  | unicodeEscape
  deriving DecidableEq, Repr

/-- The wording of each problem. -/
def Problem.message : Problem → String
  | .byteOrderMark => "Unexpected UTF-8 BOM (decode using utf-8-sig)"
  | .value => "Expecting value"
  | .propertyName => "Expecting property name enclosed in double quotes"
  | .colon => "Expecting ':' delimiter"
  | .comma => "Expecting ',' delimiter"
  | .extraData => "Extra data"
  | .unterminatedString => "Unterminated string starting at"
  | .controlCharacter => "Invalid control character at"
  | .escape => "Invalid \\escape"
  | .unicodeEscape => "Invalid \\uXXXX escape"

/-- A problem and the place where it is: line and column count from one, the
    offset from zero. -/
structure SyntaxFault where
  problem : Problem
  line : Nat
  column : Nat
  offset : Nat
  deriving DecidableEq, Repr

/-- The wording of a refusal, with its place. -/
def SyntaxFault.message (fault : SyntaxFault) : String :=
  fault.problem.message ++ ": line " ++ toString fault.line ++ " column " ++ toString fault.column ++
    " (char " ++ toString fault.offset ++ ")"

/-- Why a text is not read. -/
inductive ReadFault where
  | malformed (fault : SyntaxFault)
  /-- Arrays and objects stand too deep in one another. -/
  | tooNested
  /-- A whole number has too many digits. -/
  | tooManyDigits
  deriving DecidableEq, Repr

/-- A refusal as the readers below give it: a problem comes with the text from its
    place on. -/
inductive Refusal where
  | malformed (problem : Problem) (place : List Char)
  | tooNested
  | tooManyDigits

/-- A problem whose place is given by the text from there on, within the whole
    text. -/
def SyntaxFault.locate (problem : Problem) (place text : List Char) : SyntaxFault :=
  let before := text.take (text.length - place.length)
  { problem
    line := before.count '\n' + 1
    column := (before.reverse.takeWhile (· ≠ '\n')).length + 1
    offset := before.length }

/-- A refusal as it is told of the whole text. -/
def Refusal.within (refusal : Refusal) (text : List Char) : ReadFault :=
  match refusal with
  | malformed problem place => .malformed (.locate problem place text)
  | tooNested => .tooNested
  | tooManyDigits => .tooManyDigits

/-- A reader takes what it reads off the front of a text. -/
abbrev Reader (α : Type) := List Char → Except Refusal (α × List Char)

/-- The blanks between the parts of a JSON text. -/
def isBlank (c : Char) : Bool :=
  c = ' ' || c = '\t' || c = '\n' || c = '\r'

/-- A text without the blanks in front of it. -/
def skipBlanks (text : List Char) : List Char :=
  text.dropWhile isBlank

/-! ## Numbers -/

/-- The digits after a point; none if the text does not go on with a point and
    a digit. -/
def readFraction : List Char → List Char × List Char
  | '.' :: d :: rest => if Numeral.isDigit d then Numeral.span (d :: rest) else ([], '.' :: d :: rest)
  | text => ([], text)

/-- The sign in front of an exponent. -/
def readSign : List Char → Bool × List Char
  | '-' :: rest => (true, rest)
  | '+' :: rest => (false, rest)
  | text => (false, text)

/-- An exponent with at least one digit; otherwise nothing is taken. -/
def readExponent (text : List Char) : Option Int × List Char :=
  match text with
  | mark :: rest =>
    if mark = 'e' ∨ mark = 'E' then
      let (negative, unsigned) := readSign rest
      let (digits, after) := Numeral.span unsigned
      if digits.isEmpty then (none, text)
      else (some (if negative then -(Numeral.value digits : Int) else Numeral.value digits), after)
    else (none, text)
  | [] => (none, text)

/-- The whole part of a number: a zero alone, or digits that do not begin with
    zero. -/
def readWhole : List Char → Option (List Char × List Char)
  | [] => none
  | d :: rest =>
    if d = '0' then some ([d], rest)
    else if Numeral.isDigit d then some (Numeral.span (d :: rest))
    else none

/-- A number behind its sign; `start` is the text with the sign. The number is
    whole when it has neither fraction nor exponent, and then `digits` is the most
    digits that it can have. -/
def readMagnitude (digits : Nat) (start : List Char) (negative : Bool) : Reader Json := fun text =>
  match readWhole text with
  | none => .error (.malformed .value start)
  | some (whole, afterWhole) =>
    let (fraction, afterFraction) := readFraction afterWhole
    let (exponent, rest) := readExponent afterFraction
    if fraction.isEmpty && exponent.isNone then
      if digits < whole.length then .error .tooManyDigits
      else
        let magnitude : Int := Numeral.value whole
        .ok (.int (if negative then -magnitude else magnitude), rest)
    else .ok (.double (Numeral.toDouble negative whole fraction (exponent.getD 0)), rest)

/-- A literal or a number. -/
def readScalar (digits : Nat) : Reader Json
  | 'n' :: 'u' :: 'l' :: 'l' :: rest => .ok (.null, rest)
  | 't' :: 'r' :: 'u' :: 'e' :: rest => .ok (.bool true, rest)
  | 'f' :: 'a' :: 'l' :: 's' :: 'e' :: rest => .ok (.bool false, rest)
  | 'N' :: 'a' :: 'N' :: rest => .ok (.double Double.notANumber, rest)
  | 'I' :: 'n' :: 'f' :: 'i' :: 'n' :: 'i' :: 't' :: 'y' :: rest => .ok (.double Double.infinity, rest)
  | '-' :: 'I' :: 'n' :: 'f' :: 'i' :: 'n' :: 'i' :: 't' :: 'y' :: rest =>
    .ok (.double (-Double.infinity), rest)
  | '-' :: rest => readMagnitude digits ('-' :: rest) true rest
  | text => readMagnitude digits text false text

/-! ## Strings -/

/-- The value of a hexadecimal digit. -/
def hexValue? (c : Char) : Option Nat :=
  if '0' ≤ c ∧ c ≤ '9' then some (c.toNat - '0'.toNat)
  else if 'a' ≤ c ∧ c ≤ 'f' then some (c.toNat - 'a'.toNat + 10)
  else if 'A' ≤ c ∧ c ≤ 'F' then some (c.toNat - 'A'.toNat + 10)
  else none

/-- The value of four hexadecimal digits. -/
def hexValue4? (a b c d : Char) : Option Nat := do
  let a ← hexValue? a
  let b ← hexValue? b
  let c ← hexValue? c
  let d ← hexValue? d
  some (((a * 16 + b) * 16 + c) * 16 + d)

/-- The code unit of an escape whose letter has just been read. A character
    must follow its four digits, since at least the closing quote does. -/
def readCodeUnit (letter : List Char) : Reader Nat
  | a :: b :: c :: d :: next :: rest =>
    match hexValue4? a b c d with
    | some unit => .ok (unit, next :: rest)
    | none => .error (.malformed .unicodeEscape letter)
  | _ => .error (.malformed .unicodeEscape letter)

/-- The second half of a surrogate pair, if one follows the first half. Another
    escape that follows is left to be read on its own. -/
def readLowSurrogate : Reader (Option Nat)
  | '\\' :: 'u' :: a :: b :: c :: d :: next :: rest =>
    match hexValue4? a b c d with
    | some low =>
      if 0xDC00 ≤ low ∧ low ≤ 0xDFFF then .ok (some low, next :: rest)
      else .ok (none, '\\' :: 'u' :: a :: b :: c :: d :: next :: rest)
    | none => .error (.malformed .unicodeEscape ('u' :: a :: b :: c :: d :: next :: rest))
  | text => .ok (none, text)

/-- The character that the two halves of a surrogate pair stand for. -/
def joinSurrogates (high low : Nat) : Char :=
  Char.ofNat (0x10000 + (high - 0xD800) * 0x400 + (low - 0xDC00))

/-- The code point that an escape with four digits, or a pair of them, stands for.
    A half without the other stands for itself. -/
def readUnicodeEscape (letter : List Char) : Reader CodePoint := fun text => do
  let (unit, rest) ← readCodeUnit letter text
  if 0xD800 ≤ unit ∧ unit ≤ 0xDBFF then
    let (low, rest) ← readLowSurrogate rest
    match low with
    | some low => .ok (.character (joinSurrogates unit low), rest)
    | none => .ok (.ofUnit unit, rest)
  else .ok (.ofUnit unit, rest)

/-- The character that a one-letter escape stands for. -/
def simpleEscape? : Char → Option Char
  | '"' => some '"'
  | '\\' => some '\\'
  | '/' => some '/'
  | 'b' => some '\x08'
  | 'f' => some '\x0c'
  | 'n' => some '\n'
  | 'r' => some '\r'
  | 't' => some '\t'
  | _ => none

/-- One code point of a string whose opening quote begins `opened`; nothing at
    the closing quote. -/
def readCodePoint (opened : List Char) : Reader (Option CodePoint)
  | [] => .error (.malformed .unterminatedString opened)
  | '"' :: rest => .ok (none, rest)
  | ['\\'] => .error (.malformed .unterminatedString opened)
  | '\\' :: 'u' :: rest => do
    let (point, rest) ← readUnicodeEscape ('u' :: rest) rest
    .ok (some point, rest)
  | '\\' :: letter :: rest =>
    match simpleEscape? letter with
    | some c => .ok (some (.character c), rest)
    | none => .error (.malformed .escape ('\\' :: letter :: rest))
  | c :: rest =>
    if c.toNat ≤ 0x1F then .error (.malformed .controlCharacter (c :: rest))
    else .ok (some (.character c), rest)

/-- The code points of a string up to its closing quote. `reversed` holds those
    already read, the last one first; `fuel` bounds the code points to come. -/
def readCodePoints (opened : List Char) : (fuel : Nat) → (reversed : List CodePoint) → Reader Text
  | 0, _, _ => .error (.malformed .unterminatedString opened)
  | fuel + 1, reversed, text =>
    match readCodePoint opened text with
    | .error refusal => .error refusal
    | .ok (none, rest) => .ok (.ofPoints reversed.reverse, rest)
    | .ok (some point, rest) => readCodePoints opened fuel (point :: reversed) rest

/-- A string from its opening quote on. -/
def readString : Reader Text
  | '"' :: rest => readCodePoints ('"' :: rest) (rest.length + 1) [] rest
  | text => .error (.malformed .propertyName text)

/-! ## Values -/

/-- Reads what must stand at a place: a given character with blanks before and
    after it. -/
def expect (mark : Char) (problem : Problem) (text : List Char) : Except Refusal (List Char) :=
  match skipBlanks text with
  | [] => .error (.malformed problem [])
  | c :: rest => if c = mark then .ok (skipBlanks rest) else .error (.malformed problem (c :: rest))

mutual

/-- A value that begins at the first character. `room` is how many arrays and objects
    may still be opened one in another. `fuel` bounds the nesting and the number of
    items; a text longer than it is never needed. -/
def readValue (digits : Nat) : (fuel room : Nat) → Reader Json
  | 0, _, text => .error (.malformed .value text)
  | fuel + 1, room, text =>
    match text with
    | '"' :: rest => do
      let (s, rest) ← readString ('"' :: rest)
      .ok (.str s, rest)
    | '{' :: rest =>
      match room, skipBlanks rest with
      | 0, _ => .error .tooNested
      | _ + 1, '}' :: after => .ok (.obj [], after)
      | inside + 1, members => readMembers digits fuel inside [] members
    | '[' :: rest =>
      match room, skipBlanks rest with
      | 0, _ => .error .tooNested
      | _ + 1, ']' :: after => .ok (.arr [], after)
      | inside + 1, items => readItems digits fuel inside [] items
    | _ => readScalar digits text

/-- The items of an array up to its closing bracket; `reversed` holds those
    already read, the last one first. -/
def readItems (digits : Nat) : (fuel room : Nat) → (reversed : List Json) → Reader Json
  | 0, _, _, text => .error (.malformed .value text)
  | fuel + 1, room, reversed, text =>
    match readValue digits fuel room text with
    | .error refusal => .error refusal
    | .ok (item, rest) =>
      match skipBlanks rest with
      | ']' :: after => .ok (.arr (item :: reversed).reverse, after)
      | rest =>
        match expect ',' .comma rest with
        | .error refusal => .error refusal
        | .ok next => readItems digits fuel room (item :: reversed) next

/-- The members of an object up to its closing brace, added to those already
    read. -/
def readMembers (digits : Nat) : (fuel room : Nat) → (members : List (Text × Json)) → Reader Json
  | 0, _, _, text => .error (.malformed .value text)
  | fuel + 1, room, members, text =>
    match readString text with
    | .error refusal => .error refusal
    | .ok (key, afterKey) =>
      match expect ':' .colon afterKey with
      | .error refusal => .error refusal
      | .ok start =>
        match readValue digits fuel room start with
        | .error refusal => .error refusal
        | .ok (item, rest) =>
          match skipBlanks rest with
          | '}' :: after => .ok (.obj (setMember key item members), after)
          | rest =>
            match expect ',' .comma rest with
            | .error refusal => .error refusal
            | .ok next => readMembers digits fuel room (setMember key item members) next

end

/-- The value that a text holds, with nothing but blanks around it. -/
def readDocument (runtime : Runtime) (text : List Char) : Except Refusal Json :=
  match text with
  | '\uFEFF' :: _ => .error (.malformed .byteOrderMark text)
  | _ =>
    match readValue runtime.digits (2 * text.length + 1) runtime.nesting (skipBlanks text) with
    | .error refusal => .error refusal
    | .ok (value, rest) =>
      match skipBlanks rest with
      | [] => .ok value
      | extra => .error (.malformed .extraData extra)

/-- Reads a text as one JSON value, or says why it cannot be read as one. -/
def read (runtime : Runtime) (text : String) : Except ReadFault Json :=
  let characters := text.toList
  (readDocument runtime characters).mapError fun refusal => refusal.within characters

end PlantDrawing.Json
