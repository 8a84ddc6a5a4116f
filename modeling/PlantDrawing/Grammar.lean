import PlantDrawing.Fault

/-!
# Grammars

A grammar has a start word and rules that replace one symbol each. The rules
form an ordered map: no two have the same key. `Grammar.check` accepts a grammar
whose brackets can never come apart, however often its rules are applied, and
otherwise reports the first thing wrong with it. `Grammar.table` lists grammars
under distinct names.
-/

namespace PlantDrawing

/-- A rule replaces its key by its replacement. Only a key of one symbol ever
    applies. -/
structure Rule where
  key : Word
  replacement : Word
  deriving DecidableEq, Repr

/-- Rules in order, no two with the same key. -/
structure Rules where
  entries : List Rule
  keys_nodup : (entries.map Rule.key).Nodup
  deriving DecidableEq, Repr

namespace Rules

/-- The list with a key set: in its old place if it is there, else at the end. -/
def putEntry (rule : Rule) : List Rule → List Rule
  | [] => [rule]
  | entry :: rest => if entry.key = rule.key then rule :: rest else entry :: putEntry rule rest

/-- Setting a key adds at most that key. -/
theorem mem_keys_putEntry {rule : Rule} {entries : List Rule} {key : Word}
    (member : key ∈ (putEntry rule entries).map Rule.key) :
    key = rule.key ∨ key ∈ entries.map Rule.key := by
  induction entries with
  | nil => simpa [putEntry] using member
  | cons entry rest ih =>
    by_cases same : entry.key = rule.key
    · rw [putEntry, if_pos same] at member
      simp only [List.map_cons, List.mem_cons] at member ⊢
      rcases member with h | h
      · exact .inl h
      · exact .inr (.inr h)
    · rw [putEntry, if_neg same] at member
      simp only [List.map_cons, List.mem_cons] at member ⊢
      rcases member with h | h
      · exact .inr (.inl h)
      · exact (ih h).imp id .inr

/-- Setting a key keeps the keys distinct. -/
theorem keys_nodup_putEntry (rule : Rule) {entries : List Rule}
    (distinct : (entries.map Rule.key).Nodup) : ((putEntry rule entries).map Rule.key).Nodup := by
  induction entries with
  | nil => simp [putEntry]
  | cons entry rest ih =>
    simp only [List.map_cons, List.nodup_cons] at distinct
    by_cases same : entry.key = rule.key
    · rw [putEntry, if_pos same, List.map_cons, List.nodup_cons]
      exact ⟨same ▸ distinct.1, distinct.2⟩
    · rw [putEntry, if_neg same, List.map_cons, List.nodup_cons]
      refine ⟨fun member => ?_, ih distinct.2⟩
      rcases mem_keys_putEntry member with h | h
      · exact same h
      · exact distinct.1 h

/-- No rules. -/
def empty : Rules := ⟨[], List.nodup_nil⟩

/-- Sets the replacement of a key. -/
def put (rules : Rules) (rule : Rule) : Rules :=
  ⟨putEntry rule rules.entries, keys_nodup_putEntry rule rules.keys_nodup⟩

/-- The rules of a list; of two with the same key the later one counts, in the
    place of the earlier. -/
def ofList (rules : List Rule) : Rules :=
  rules.foldl put empty

/-- What one symbol becomes: the replacement of its rule, or the symbol itself
    when it has none. -/
def replacement (rules : Rules) (symbol : Char) : Word :=
  match rules.entries.find? fun rule => rule.key = [symbol] with
  | some rule => rule.replacement
  | none => [symbol]

end Rules

/-- Which symbols the turtle walks forward on, drawing a line or not. A name of
    more than one character stands for no symbol. -/
structure Alphabet where
  draw : List Word := [['F'], ['G']]
  move : List Word := [['f'], ['g']]
  deriving DecidableEq, Repr

namespace Alphabet

/-- Whether a symbol draws. -/
def draws (alphabet : Alphabet) (symbol : Char) : Bool :=
  alphabet.draw.contains [symbol]

/-- Whether a symbol moves the turtle, drawing or not. -/
def walks (alphabet : Alphabet) (symbol : Char) : Bool :=
  alphabet.draws symbol || alphabet.move.contains [symbol]

end Alphabet

/-- A grammar: the word it starts from, its rules, and how the turtle reads its
    words. The angle is in degrees. -/
structure Grammar where
  name : String
  start : Word
  rules : Rules
  angle : Float
  alphabet : Alphabet := {}
  maxIterations : Int := 5
  description : String := ""
  deriving DecidableEq

namespace Grammar

/-- Checks one rule: a key of one symbol that is no bracket, and a balanced
    replacement. -/
def checkRule (rule : Rule) : Except GrammarFault Unit :=
  if rule.key.length ≠ 1 then .error (.keyLength rule.key)
  else if rule.key = [Word.opening] ∨ rule.key = [Word.closing] then .error (.bracketKey rule.key)
  else if ¬ rule.replacement.Balanced then
    .error (.unbalancedReplacement rule.key rule.replacement)
  else .ok ()

/-- Checks rules one after another. -/
def checkRules : List Rule → Except GrammarFault Unit
  | [] => .ok ()
  | rule :: rest => do
    checkRule rule
    checkRules rest

/-- The first thing wrong with a grammar: its start word, its iteration count,
    then its rules in order. -/
def faultOf (grammar : Grammar) : Except GrammarFault Unit :=
  if grammar.start = [] then .error .emptyStart
  else if grammar.maxIterations < 0 then .error .negativeMaxIterations
  else if ¬ grammar.start.Balanced then .error .unbalancedStart
  else checkRules grammar.rules.entries

/-- Accepts a grammar, or reports the first thing wrong with it. -/
def check (grammar : Grammar) : Except Fault Unit :=
  grammar.faultOf.mapError (.grammar grammar.name)

/-- The length of the longest replacement, and at least one, since a symbol
    without a rule stays. No generation is longer than the one before by more
    than this factor. -/
def growthFactor (grammar : Grammar) : Nat :=
  grammar.rules.entries.foldl (fun longest rule => max longest rule.replacement.length) 1

/-- Adds grammars to a table, one after another. -/
def tableFrom (table : List Grammar) : List Grammar → Except Fault (List Grammar)
  | [] => .ok table
  | grammar :: rest => do
    if table.any (·.name = grammar.name) then .error (.duplicateGrammar grammar.name)
    grammar.check
    tableFrom (table ++ [grammar]) rest

/-- Lists grammars under their names. Fails at the first one whose name has been
    listed before or that is not accepted. -/
def table (grammars : List Grammar) : Except Fault (List Grammar) :=
  tableFrom [] grammars

end Grammar

end PlantDrawing
