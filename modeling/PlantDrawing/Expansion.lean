import PlantDrawing.Grammar

/-!
# Expansion

One generation replaces every symbol of a word at once. `Grammar.expand` makes
generation after generation from the start word. A limit on the number of
symbols is checked after each generation and never for the start word.
-/

namespace PlantDrawing

/-- The next generation of a word: every symbol replaced at once. -/
def Rules.substitute (rules : Rules) (word : Word) : Word :=
  word.flatMap rules.replacement

@[simp] theorem Rules.substitute_nil (rules : Rules) : rules.substitute [] = [] := rfl

/-- Substitution goes symbol by symbol, so it respects concatenation. -/
theorem Rules.substitute_append (rules : Rules) (first second : Word) :
    rules.substitute (first ++ second) = rules.substitute first ++ rules.substitute second :=
  List.flatMap_append

namespace Grammar

/-- The limit, if a word has more symbols than it allows. -/
def exceeded? (limit : Option Int) (word : Word) : Option Int :=
  limit.filter fun bound => bound < (word.length : Int)

/-- Makes `remaining` more generations of a word that is generation `done` of
    the `requested` ones. -/
def expandFrom (grammar : Grammar) (limit : Option Int) (requested : Nat) :
    (remaining done : Nat) → Word → Except Fault Word
  | 0, _, word => .ok word
  | remaining + 1, done, word =>
    let next := grammar.rules.substitute word
    match exceeded? limit next with
    | some bound => .error (.expansionLimit grammar.name bound (done + 1) requested)
    | none => expandFrom grammar limit requested remaining (done + 1) next

/-- The word after a number of generations, unless one of them on the way has
    more symbols than the limit allows. -/
def expand (grammar : Grammar) (iterations : Nat) (limit : Option Int) : Except Fault Word :=
  expandFrom grammar limit iterations iterations 0 grammar.start

end Grammar

/-- A count of iterations given as a JSON value: a whole number that is not
    negative. -/
def Json.toIterations : Json → Except Fault Nat
  | .int n =>
    if n < 0 then .error (.config (.negative "iterations")) else .ok n.toNat
  | _ => .error (.config (.wrongKind "iterations" .integer))

/-- Like `Grammar.expand`, for a count that has still to be checked. -/
def Grammar.expandCounted (grammar : Grammar) (iterations : Json) (limit : Option Int) :
    Except Fault Word := do
  let count ← iterations.toIterations
  grammar.expand count limit

end PlantDrawing
