import Mathlib.Data.List.Nodup
import PlantDrawing.Catalog
import PlantDrawing.Proofs.Acceptance
import PlantDrawing.Proofs.Checks

/-!
# Tables of grammars

What is checked before grammars are listed, in a row: of each grammar in turn that its name is not
listed already, then its start word, its iteration count and the brackets of its start word, then
its rules in turn (`checksAfter`). A table comes out if all checks are kept, and it is then the
grammars themselves; else the first fault in the row is reported (`table_outcome`).
-/
namespace PlantDrawing.Grammar

/-- What is checked of a rule of a grammar. -/
def ruleChecks (name : String) (rule : Rule) : List Check :=
  [.plain (rule.key.length = 1) (.grammar name (.keyLength rule.key)),
    .plain (rule.key ≠ [Word.opening] ∧ rule.key ≠ [Word.closing]) (.grammar name (.bracketKey rule.key)),
    .plain rule.replacement.Balanced (.grammar name (.unbalancedReplacement rule.key rule.replacement))]

/-- What is checked of a grammar by itself. -/
def checks (grammar : Grammar) : List Check :=
  .plain (grammar.start ≠ []) (.grammar grammar.name .emptyStart) ::
    .plain (0 ≤ grammar.maxIterations) (.grammar grammar.name .negativeMaxIterations) ::
    .plain grammar.start.Balanced (.grammar grammar.name .unbalancedStart) ::
    grammar.rules.entries.flatMap (ruleChecks grammar.name)

/-- What is checked of a grammar that is to be listed after others. -/
def checksAfter (listed : List Grammar) (grammar : Grammar) : List Check :=
  .plain (grammar.name ∉ listed.map name) (.duplicateGrammar grammar.name) :: grammar.checks

/-- What is checked of grammars that are to be listed after others, one after another. -/
def tableChecks (listed : List Grammar) : List Grammar → List Check
  | [] => []
  | grammar :: rest => grammar.checksAfter listed ++ tableChecks (listed ++ [grammar]) rest

variable {grammar : Grammar} {listed grammars : List Grammar} {fault : Fault}

/-! ## The checks are followed -/

theorem checkRule_follows (name : String) (rule : Rule) :
    Follows ((checkRule rule).mapError (.grammar name)) (ruleChecks name rule) fun _ => True := by
  have apart : rule.key = [Word.opening] ∨ rule.key = [Word.closing] ↔
      ¬(rule.key ≠ [Word.opening] ∧ rule.key ≠ [Word.closing]) := by
    rw [Decidable.not_and_iff_or_not, Decidable.not_not, Decidable.not_not]
  unfold checkRule
  rw [apply_ite (Except.mapError _), apply_ite (Except.mapError _), apply_ite (Except.mapError _)]
  exact .guarded .rfl (.guarded apart (.guarded .rfl (.of_kept nofun trivial)))

theorem checkRules_follows (name : String) (rules : List Rule) :
    Follows ((checkRules rules).mapError (.grammar name)) (rules.flatMap (ruleChecks name)) fun _ => True := by
  induction rules with
  | nil => exact .of_kept nofun trivial
  | cons rule rest ih =>
    rw [checkRules, Outcome.mapError_bind, List.flatMap_cons]
    exact (checkRule_follows name rule).bind_append fun _ _ => ih

theorem check_follows (grammar : Grammar) : Follows grammar.check grammar.checks fun _ => True := by
  unfold check faultOf
  rw [apply_ite (Except.mapError _), apply_ite (Except.mapError _), apply_ite (Except.mapError _)]
  exact .guarded Decidable.not_not.symm
    (.guarded Int.not_le.symm (.guarded .rfl (checkRules_follows grammar.name grammar.rules.entries)))

theorem tableFrom_cons (listed : List Grammar) (grammar : Grammar) (rest : List Grammar) :
    tableFrom listed (grammar :: rest) =
      if listed.any (·.name = grammar.name) then .error (.duplicateGrammar grammar.name)
      else grammar.check >>= fun _ => tableFrom (listed ++ [grammar]) rest := by
  rw [tableFrom]
  split
  · rfl
  · rfl

theorem tableFrom_follows (listed grammars : List Grammar) :
    Follows (tableFrom listed grammars) (tableChecks listed grammars) (· = listed ++ grammars) := by
  induction grammars generalizing listed with
  | nil => exact .of_kept nofun (List.append_nil listed).symm
  | cons grammar rest ih =>
    have known : listed.any (·.name = grammar.name) ↔ ¬grammar.name ∉ listed.map name := by
      simp only [List.any_eq_true, decide_eq_true_eq, List.mem_map, Decidable.not_not]
    have others := ih (listed ++ [grammar])
    rw [List.append_assoc, List.singleton_append] at others
    rw [tableFrom_cons]
    exact .guarded known ((check_follows grammar).bind_append fun _ _ => others)

/-! ## What the checks ask for -/

theorem kept_checks : (∀ check ∈ grammar.checks, check.holds) ↔ grammar.Accepted := by
  rw [← (check_follows grammar).succeeds_iff, ← check_eq_ok]
  exact ⟨fun ⟨_, accepted⟩ => accepted, fun accepted => ⟨(), accepted⟩⟩

theorem kept_checksAfter :
    (∀ check ∈ grammar.checksAfter listed, check.holds) ↔ grammar.name ∉ listed.map name ∧ grammar.Accepted := by
  rw [checksAfter, List.forall_mem_cons, kept_checks]
  rfl

/-- The checks of a table are kept just if no name is listed twice and all grammars are accepted. -/
theorem kept_tableChecks :
    (∀ check ∈ tableChecks listed grammars, check.holds) ↔
      ((∀ grammar ∈ grammars, grammar.name ∉ listed.map name) ∧ (grammars.map name).Nodup) ∧
        ∀ grammar ∈ grammars, grammar.Accepted := by
  induction grammars generalizing listed with
  | nil => simp [tableChecks]
  | cons grammar rest ih =>
    have separate : (∀ other ∈ rest, other.name ∉ (listed ++ [grammar]).map name) ↔
        (∀ other ∈ rest, other.name ∉ listed.map name) ∧ grammar.name ∉ rest.map name := by
      simp only [List.map_append, List.map_cons, List.map_nil, List.mem_append, List.mem_singleton, not_or, forall_and,
        List.mem_map, not_exists, not_and]
    rw [tableChecks, List.forall_mem_append, kept_checksAfter, ih, separate, List.forall_mem_cons, List.forall_mem_cons,
      List.map_cons, List.nodup_cons]
    constructor
    · rintro ⟨⟨new, accepted⟩, ⟨⟨others, different⟩, distinct⟩, all⟩
      exact ⟨⟨⟨new, others⟩, different, distinct⟩, accepted, all⟩
    · rintro ⟨⟨⟨new, others⟩, different, distinct⟩, accepted, all⟩
      exact ⟨⟨new, accepted⟩, ⟨⟨others, different⟩, distinct⟩, all⟩

/-- The first fault of a table is that of one of the grammars, those before it keeping all checks. -/
theorem firstFault_tableChecks :
    FirstFault (tableChecks listed grammars) fault ↔
      ∃ front grammar rest, grammars = front ++ grammar :: rest ∧
        (∀ check ∈ tableChecks listed front, check.holds) ∧
          FirstFault (grammar.checksAfter (listed ++ front)) fault := by
  induction grammars generalizing listed with
  | nil => exact ⟨nofun, fun ⟨front, _, _, same, _⟩ => by cases front <;> cases same⟩
  | cons grammar rest ih =>
    rw [tableChecks, FirstFault.append_iff, ih]
    constructor
    · rintro (first | ⟨kept, front, later, rest, rfl, others, first⟩)
      · exact ⟨[], grammar, rest, rfl, nofun, by rwa [List.append_nil]⟩
      · refine ⟨grammar :: front, later, rest, rfl, ?_, ?_⟩
        · rw [tableChecks]
          exact List.forall_mem_append.mpr ⟨kept, others⟩
        · rwa [List.append_assoc, List.singleton_append] at first
    · rintro ⟨front, later, behind, same, kept, first⟩
      cases front with
      | nil =>
        obtain ⟨rfl, rfl⟩ := List.cons.inj same
        rw [List.append_nil] at first
        exact .inl first
      | cons _ front =>
        obtain ⟨rfl, rfl⟩ := List.cons.inj same
        obtain ⟨kept, others⟩ := List.forall_mem_append.mp kept
        refine .inr ⟨kept, front, later, behind, rfl, others, ?_⟩
        rwa [List.append_assoc, List.singleton_append]

/-! ## Tables -/

theorem kept_tableChecks_nil :
    (∀ check ∈ tableChecks [] grammars, check.holds) ↔
      (grammars.map name).Nodup ∧ ∀ grammar ∈ grammars, grammar.Accepted := by
  rw [kept_tableChecks]
  simp

theorem table_eq_ok :
    table grammars = .ok listed ↔
      (grammars.map name).Nodup ∧ (∀ grammar ∈ grammars, grammar.Accepted) ∧ listed = grammars := by
  have follows := tableFrom_follows [] grammars
  rw [← and_assoc, ← kept_tableChecks_nil]
  constructor
  · exact follows.ok listed
  · rintro ⟨kept, rfl⟩
    obtain ⟨value, ended⟩ := follows.succeeds_iff.mpr kept
    obtain rfl := (follows.ok value ended).2
    exact ended

/-- Under distinct names each grammar is found under its own. -/
theorem find_name_eq_some {name : String} (distinct : (grammars.map Grammar.name).Nodup) :
    grammars.find? (·.name = name) = some grammar ↔ grammar ∈ grammars ∧ grammar.name = name := by
  constructor
  · intro found
    exact ⟨List.mem_of_find?_eq_some found, by simpa using List.find?_some found⟩
  · rintro ⟨member, named⟩
    have listed : (grammars.find? (·.name = name)).isSome :=
      List.find?_isSome.mpr ⟨grammar, member, decide_eq_true named⟩
    obtain ⟨other, found⟩ := Option.isSome_iff_exists.mp listed
    have same : other.name = grammar.name := (of_decide_eq_true (List.find?_some found :)).trans named.symm
    rw [found, List.inj_on_of_nodup_map distinct (List.mem_of_find?_eq_some found) member same]

/-- Grammars are listed just if their names are distinct and all are accepted. Then the table holds
    these grammars alone, each to be found under its name. Else the first grammar is refused whose
    name is listed before it or that is not accepted, for the name before anything else, and for the
    first of its own faults in the order of its checks. -/
theorem table_outcome (grammars : List Grammar) :
    (∀ listed, table grammars = .ok listed ↔
        (grammars.map name).Nodup ∧ (∀ grammar ∈ grammars, grammar.Accepted) ∧ listed = grammars) ∧
      (∀ listed, table grammars = .ok listed → ∀ name grammar,
        listed.find? (·.name = name) = some grammar ↔ grammar ∈ grammars ∧ grammar.name = name) ∧
      ∀ fault, table grammars = .error fault ↔
        ∃ front grammar rest, grammars = front ++ grammar :: rest ∧ (front.map name).Nodup ∧
          (∀ earlier ∈ front, earlier.Accepted) ∧ FirstFault (grammar.checksAfter front) fault := by
  refine ⟨fun listed => table_eq_ok, fun listed made name grammar => ?_, fun fault => ?_⟩
  · obtain ⟨distinct, -, rfl⟩ := table_eq_ok.mp made
    exact find_name_eq_some distinct
  · rw [table, (tableFrom_follows [] grammars).fails_iff, firstFault_tableChecks]
    simp only [kept_tableChecks_nil, List.nil_append, and_assoc]

/-- A twig and a curve are listed, a second twig is refused for its name and not for its empty start
    word. -/
theorem table_outcome_twigs :
    (∃ listed, table [Catalog.twig, Catalog.koch] = .ok listed ∧ ∀ name grammar,
        listed.find? (·.name = name) = some grammar ↔
          grammar ∈ [Catalog.twig, Catalog.koch] ∧ grammar.name = name) ∧
      ∃ front grammar rest, [Catalog.twig, { Catalog.twig with start := [] }] = front ++ grammar :: rest ∧
        (front.map name).Nodup ∧ (∀ earlier ∈ front, earlier.Accepted) ∧
        FirstFault (grammar.checksAfter front) (.duplicateGrammar "twig") := by
  have made : table [Catalog.twig, Catalog.koch] = .ok [Catalog.twig, Catalog.koch] := rfl
  have refused : table [Catalog.twig, { Catalog.twig with start := [] }] = .error (.duplicateGrammar "twig") := rfl
  exact ⟨⟨_, made, (table_outcome _).2.1 _ made⟩, ((table_outcome _).2.2 _).mp refused⟩

end PlantDrawing.Grammar
