/-!
# Words and their brackets

A word is the list of symbols that a grammar replaces and the turtle walks.
Four symbols have a fixed meaning: the brackets open and close a branch, plus
and minus turn. `Word.balance` reads the brackets alone. It gives the number of
branches that a word leaves open, and nothing for a word that closes a branch
it never opened.
-/

namespace PlantDrawing

/-- A word: symbols in the order in which they are walked. -/
abbrev Word := List Char

namespace Word

/-- The symbol that opens a branch. -/
def opening : Char := '['

/-- The symbol that closes a branch. -/
def closing : Char := ']'

/-- The symbol that turns left. -/
def leftTurn : Char := '+'

/-- The symbol that turns right. -/
def rightTurn : Char := '-'

/-- The number of open branches after one more symbol; nothing when the symbol
    closes a branch and none is open. -/
def heightStep (height : Nat) (symbol : Char) : Option Nat :=
  if symbol = opening then some (height + 1)
  else if symbol = closing then
    match height with
    | 0 => none
    | height + 1 => some height
  else some height

/-- The number of open branches after a word that starts below `height` open
    branches. -/
def heightFrom (height : Nat) (word : Word) : Option Nat :=
  word.foldlM heightStep height

/-- The number of branches that a word leaves open, or nothing if the word
    closes a branch that it did not open. -/
def balance (word : Word) : Option Nat :=
  heightFrom 0 word

/-- A word is balanced when it closes every branch it opens and no other. -/
def Balanced (word : Word) : Prop :=
  balance word = some 0

instance (word : Word) : Decidable (Balanced word) :=
  inferInstanceAs (Decidable (balance word = some 0))

@[simp] theorem heightFrom_nil (height : Nat) : heightFrom height [] = some height := rfl

theorem heightFrom_cons (height : Nat) (symbol : Char) (word : Word) :
    heightFrom height (symbol :: word) =
      (heightStep height symbol).bind fun next => heightFrom next word := by
  simp only [heightFrom, List.foldlM_cons]
  rfl

/-- Reading a word in two pieces reads the second from where the first ends. -/
theorem heightFrom_append (height : Nat) (first second : Word) :
    heightFrom height (first ++ second) =
      (heightFrom height first).bind fun next => heightFrom next second := by
  simp only [heightFrom, List.foldlM_append]
  rfl

/-- The symbols of a word as text. -/
def text (word : Word) : String :=
  String.ofList word

/-- The symbols of a text. -/
def ofText (text : String) : Word :=
  text.toList

@[simp] theorem ofText_text (word : Word) : ofText (text word) = word := by
  simp [ofText, text]

@[simp] theorem text_ofText (s : String) : text (ofText s) = s := by
  simp [ofText, text]

end Word

end PlantDrawing
