import PlantDrawing.CommandLine
import PlantDrawing.Proofs.DrawingOutcome
import PlantDrawing.Proofs.FileFaults

/-!
# Messages of one line

A message is one line if no part of it brings the end of a line along. Quoted texts and
numbers never do, so a problem with a file and whatever stops a drawing are told on one
line (`FileFault.oneLine`, `Drawing.make_told`, `Report.make_told`).
-/
namespace PlantDrawing

open Outcome (FailsWith)

/-- A text without the end of a line in it. -/
def OneLine (text : String) : Prop := '\n' ∉ text.toList

instance (text : String) : Decidable (OneLine text) := inferInstanceAs (Decidable (_ ∉ _))

variable {first second text name : String}

theorem oneLine_append : OneLine (first ++ second) ↔ OneLine first ∧ OneLine second := by
  unfold OneLine
  rw [String.toList_append, List.mem_append, not_or]

theorem OneLine.append (left : OneLine first) (right : OneLine second) : OneLine (first ++ second) :=
  oneLine_append.mpr ⟨left, right⟩

/-! ## Numbers and quoted texts -/

theorem newline_notMem_toDigits {base : Nat} (proper : 1 < base) (n : Nat) : '\n' ∉ Nat.toDigits base n := by
  induction n using Nat.strongRecOn with
  | ind n ih =>
    have digit (d : Nat) : '\n' ∉ [d.digitChar] := by
      rw [List.mem_singleton]
      exact (Nat.digitChar_ne '\n' rfl).symm
    rw [Nat.toDigits_eq_if proper]
    split
    · exact digit n
    · rename_i large
      have less : n / base < n := Nat.div_lt_self (by omega) proper
      rw [List.mem_append, not_or]
      exact ⟨ih _ less, digit _⟩

theorem oneLine_nat (n : Nat) : OneLine (toString n) := by
  unfold OneLine
  rw [Nat.toString_eq_ofList_toDigits, String.toList_ofList]
  exact newline_notMem_toDigits (by decide) n

theorem toString_int_toList (n : Int) :
    (toString n).toList = (if 0 ≤ n then [] else ['-']) ++ Nat.toDigits 10 n.natAbs := by
  change n.repr.toList = _
  rw [Int.repr_eq_if]
  split
  · have size : n.natAbs = n.toNat := by omega
    rw [size, List.nil_append]
    exact String.toList_ofList
  · have size : n.natAbs = (-n).toNat := by omega
    rw [size, String.toList_append]
    exact congrArg ('-' :: ·) String.toList_ofList

theorem oneLine_int (n : Int) : OneLine (toString n) := by
  unfold OneLine
  rw [toString_int_toList, List.mem_append, not_or]
  refine ⟨?_, newline_notMem_toDigits (by decide) n.natAbs⟩
  split <;> decide

namespace Quoted

theorem newline_notMem_hexadecimal (width code : Nat) : '\n' ∉ hexadecimal width code := by
  unfold hexadecimal
  rw [List.mem_append, not_or]
  refine ⟨?_, newline_notMem_toDigits (by decide) code⟩
  rw [List.mem_replicate]
  exact fun ⟨_, same⟩ => absurd same (by decide)

theorem newline_notMem_escaped (c : Char) : '\n' ∉ escaped c := by
  have escape (letter : Char) (width : Nat) (apart : '\n' ≠ letter) :
      '\n' ∉ '\\' :: letter :: hexadecimal width c.toNat := by
    rw [List.mem_cons, List.mem_cons, not_or, not_or]
    exact ⟨by decide, apart, newline_notMem_hexadecimal width c.toNat⟩
  unfold escaped
  split
  · exact escape 'x' 2 (by decide)
  · split
    · exact escape 'u' 4 (by decide)
    · exact escape 'U' 8 (by decide)

theorem newline_notMem_spelling {mark : Char} (markNot : '\n' ≠ mark) (c : Char) : '\n' ∉ spelling mark c := by
  by_cases special : c = mark ∨ c = '\\'
  · rw [spelling, if_pos special, List.mem_cons, List.mem_singleton, not_or]
    refine ⟨by decide, ?_⟩
    rcases special with rfl | rfl
    · exact markNot
    · decide
  · rw [spelling, if_neg special]
    by_cases newline : c = '\n'
    · rw [if_pos newline]
      decide
    · rw [if_neg newline]
      split
      · decide
      · split
        · decide
        · split
          · rw [List.mem_singleton]
            exact fun same => newline same.symm
          · exact newline_notMem_escaped c

theorem oneLine_quote (text : List Char) : OneLine (quote text) := by
  have markNot : '\n' ≠ quoteFor text := by
    unfold quoteFor
    split <;> decide
  unfold OneLine quote
  simp only [String.toList_ofList, List.mem_append, List.mem_cons, List.mem_flatMap, markNot, false_or, or_false,
    not_exists, not_and, List.not_mem_nil]
  exact fun c _ => newline_notMem_spelling markNot c

end Quoted

theorem oneLine_quoted (text : String) : OneLine (quoted text) :=
  Quoted.oneLine_quote text.toList

/-! ## Files -/

theorem FileFault.oneLine {fault : FileFault} (reported : fault.problem.Reported) : OneLine fault.message := by
  have phrase : OneLine fault.problem.phrase := by
    cases problem : fault.problem with
    | other =>
      rw [problem] at reported
      exact reported.elim
    | _ => decide
  unfold FileFault.message
  simp only [oneLine_append, oneLine_nat, oneLine_quoted, phrase, and_true]
  decide

/-! ## Drawings -/

/-- A fault that comes from what was asked for, and whose wording is one line. -/
structure Fault.Told (fault : Fault) : Prop where
  asked : Failure.isRequestFault fault = true
  line : OneLine fault.message

theorem told_notPositive {setting : String} (line : OneLine setting) :
    Fault.Told (.config (.notPositive setting)) :=
  ⟨rfl, .append line (by decide)⟩

theorem told_wrongKind {setting : String} (line : OneLine setting) (kind : ValueKind) :
    Fault.Told (.config (.wrongKind setting kind)) := by
  refine ⟨rfl, .append (.append line (by decide)) ?_⟩
  cases kind <;> decide

theorem Settings.checkPositive_told {setting : String} (line : OneLine setting) (x : Float) :
    FailsWith Fault.Told (checkPositive setting x) := by
  unfold checkPositive
  split
  · exact .ok _
  · exact .error (told_notPositive line)

theorem Settings.check_told (settings : Settings) : FailsWith Fault.Told settings.check :=
  .bind (checkPositive_told (by decide) _) fun _ _ => checkPositive_told (by decide) _

theorem Json.toIterations_told (iterations : Json) : FailsWith Fault.Told iterations.toIterations := by
  unfold toIterations
  split
  · split
    · exact .error ⟨rfl, by decide⟩
    · exact .ok _
  · exact .error (told_wrongKind (by decide) _)

theorem Grammar.expand_told (grammar : Grammar) (count : Nat) (limit : Option Int) :
    FailsWith Fault.Told (grammar.expand count limit) := by
  intro fault failed
  obtain ⟨bound, later, -, -, -, rfl, -⟩ := expand_eq_error.mp failed
  refine ⟨rfl, ?_⟩
  unfold Fault.message
  simp only [oneLine_append, oneLine_quoted, oneLine_nat, oneLine_int, and_true]
  decide

namespace Catalog

theorem grammar_eq_ok {grammar : Grammar} (found : Catalog.grammar name = .ok grammar) :
    grammar ∈ grammars ∧ grammar.name = name := by
  unfold Catalog.grammar at found
  split at found
  · rename_i listed
    cases found
    exact ⟨List.mem_of_find?_eq_some listed, by simpa using List.find?_some listed⟩
  · cases found

theorem grammar_told (name : String) : FailsWith Fault.Told (Catalog.grammar name) := by
  unfold Catalog.grammar
  split
  · exact .ok _
  · refine .error ⟨rfl, ?_⟩
    have choices : OneLine (", ".intercalate names) := by decide
    unfold Fault.message
    simp only [oneLine_append, oneLine_quoted, choices, and_true]
    decide

end Catalog

/-- Whatever stops a drawing is told on one line. -/
theorem Drawing.make_told (name : String) (iterations : Json) (settings : Settings) (limit : Option Int) :
    FailsWith Fault.Told (make name iterations settings limit) := by
  intro fault failed
  cases found : Catalog.grammar name with
  | error other =>
    rw [make, found] at failed
    cases failed
    exact Catalog.grammar_told name fault found
  | ok grammar =>
    obtain ⟨member, named⟩ := Catalog.grammar_eq_ok found
    rcases make_eq_error_cases member named failed with unchecked | ⟨-, uncounted | ⟨count, -, beyond⟩⟩
    · exact settings.check_told fault unchecked
    · exact iterations.toIterations_told fault uncounted
    · exact grammar.expand_told count limit fault beyond

/-- Whatever stops a report is told on one line. -/
theorem Report.make_told (name : String) (iterations : Json) (settings : Settings) (limit : Option Int) :
    FailsWith Fault.Told (make name iterations settings limit) := by
  refine .bind (Catalog.grammar_told name) fun grammar found => ?_
  refine .bind iterations.toIterations_told fun count _ => ?_
  refine .bind (grammar.expand_told count limit) fun word expanded => ?_
  refine .bind ?_ fun drawing _ => .ok _
  intro fault failed
  have failed : word.segments grammar.angle settings grammar.alphabet = .error fault :=
    Outcome.map_eq_error.mp failed
  cases checked : settings.check with
  | error other =>
    rw [Word.segments, checked] at failed
    cases failed
    exact settings.check_told fault checked
  | ok _ =>
    obtain ⟨rfl, -⟩ := Grammar.expand_eq_ok.mp expanded
    obtain ⟨segments, drawn⟩ := Catalog.generation_drawn (Catalog.grammar_eq_ok found).1 checked count
    rw [drawn] at failed
    cases failed

end PlantDrawing
