import PlantDrawing.Proofs.Generations

/-!
# Limits of expansions

An expansion under a limit gives the word of the unlimited one, or stops at the
first generation with more symbols than the limit allows, whatever becomes of the
later ones (`Grammar.expand_eq_ok`, `Grammar.expand_eq_error`). The start word is
never compared with the limit.
-/
namespace PlantDrawing

/-- The word has more symbols than the limit allows. Without a limit none has. -/
def Word.Exceeds (word : Word) (limit : Option Int) : Prop :=
  ∃ bound, limit = some bound ∧ bound < word.length

namespace Grammar

variable {grammar : Grammar} {limit : Option Int} {requested remaining done count : Nat}
  {word result : Word} {fault : Fault}

theorem exceeded?_eq_some {bound : Int} :
    exceeded? limit word = some bound ↔ limit = some bound ∧ bound < word.length := by
  simp [exceeded?, Option.filter_eq_some_iff]

theorem exceeded?_eq_none : exceeded? limit word = none ↔ ¬ word.Exceeds limit := by
  rw [Option.eq_none_iff_forall_ne_some]
  constructor
  · rintro none ⟨bound, limited, more⟩
    exact none bound (exceeded?_eq_some.mpr ⟨limited, more⟩)
  · intro within bound exceeded
    exact within ⟨bound, exceeded?_eq_some.mp exceeded⟩

theorem expandFrom_eq_ok :
    grammar.expandFrom limit requested remaining done word = .ok result ↔
      result = grammar.rules.generation remaining word ∧
        ∀ later, 1 ≤ later → later ≤ remaining →
          ¬ (grammar.rules.generation later word).Exceeds limit := by
  constructor
  · intro expanded
    refine ⟨expandFrom_generation expanded, ?_⟩
    induction remaining generalizing done word with
    | zero =>
      intro later least most
      omega
    | succ remaining ih =>
      rw [expandFrom] at expanded
      cases stopped : exceeded? limit (grammar.rules.substitute word) with
      | some bound =>
        simp only [stopped] at expanded
        cases expanded
      | none =>
        simp only [stopped] at expanded
        intro later least most
        obtain ⟨before, rfl⟩ : ∃ before, later = before + 1 := ⟨later - 1, by omega⟩
        by_cases first : before = 0
        · subst first
          exact exceeded?_eq_none.mp stopped
        · exact ih expanded before (by omega) (by omega)
  · rintro ⟨rfl, within⟩
    induction remaining generalizing done word with
    | zero => rfl
    | succ remaining ih =>
      have first := exceeded?_eq_none.mpr (within 1 (by omega) (by omega))
      rw [expandFrom]
      simp only [Rules.generation] at first
      simp only [first]
      refine ih fun later least most => ?_
      exact within (later + 1) (by omega) (by omega)

/-- An expansion fails at the first generation that exceeds the limit. -/
theorem expandFrom_eq_error
    (failed : grammar.expandFrom limit requested remaining done word = .error fault) :
    ∃ bound later, limit = some bound ∧ 1 ≤ later ∧ later ≤ remaining ∧
      fault = .expansionLimit grammar.name bound (done + later) requested ∧
      bound < (grammar.rules.generation later word).length ∧
      ∀ earlier, 1 ≤ earlier → earlier < later →
        ¬ (grammar.rules.generation earlier word).Exceeds limit := by
  induction remaining generalizing done word with
  | zero => cases failed
  | succ remaining ih =>
    rw [expandFrom] at failed
    cases stopped : exceeded? limit (grammar.rules.substitute word) with
    | some bound =>
      simp only [stopped] at failed
      cases failed
      obtain ⟨limited, more⟩ := exceeded?_eq_some.mp stopped
      refine ⟨bound, 1, limited, Nat.le_refl 1, by omega, rfl, more, ?_⟩
      intro earlier least less
      omega
    | none =>
      simp only [stopped] at failed
      obtain ⟨bound, later, limited, least, most, same, more, earliest⟩ := ih failed
      refine ⟨bound, later + 1, limited, by omega, by omega, ?_, more, ?_⟩
      · rw [same, Nat.add_assoc, Nat.add_comm 1]
      · intro earlier earlierLeast less
        obtain ⟨before, rfl⟩ : ∃ before, earlier = before + 1 := ⟨earlier - 1, by omega⟩
        by_cases first : before = 0
        · subst first
          exact exceeded?_eq_none.mp stopped
        · exact earliest before (by omega) (by omega)

/-- The expansion is the unlimited one if no generation on the way exceeds the
    limit, and there is none otherwise. -/
theorem expand_eq_ok :
    grammar.expand count limit = .ok result ↔
      result = grammar.rules.generation count grammar.start ∧
        ∀ later, 1 ≤ later → later ≤ count →
          ¬ (grammar.rules.generation later grammar.start).Exceeds limit :=
  expandFrom_eq_ok

theorem expand_unlimited :
    grammar.expand count none = .ok (grammar.rules.generation count grammar.start) := by
  refine expand_eq_ok.mpr ⟨rfl, ?_⟩
  rintro later - - ⟨bound, limited, -⟩
  cases limited

/-- The fault of an expansion names the first generation that exceeds the limit. -/
theorem expand_eq_error :
    grammar.expand count limit = .error fault ↔
      ∃ bound later, limit = some bound ∧ 1 ≤ later ∧ later ≤ count ∧
        fault = .expansionLimit grammar.name bound later count ∧
        bound < (grammar.rules.generation later grammar.start).length ∧
        ∀ earlier, 1 ≤ earlier → earlier < later →
          ¬ (grammar.rules.generation earlier grammar.start).Exceeds limit := by
  constructor
  · intro failed
    obtain ⟨bound, later, limited, least, most, same, rest⟩ := expandFrom_eq_error failed
    rw [Nat.zero_add] at same
    exact ⟨bound, later, limited, least, most, same, rest⟩
  · rintro ⟨bound, later, limited, least, most, rfl, more, earliest⟩
    cases expanded : grammar.expand count limit with
    | ok word =>
      exact absurd ⟨bound, limited, more⟩ ((expand_eq_ok.mp expanded).2 later least most)
    | error fault =>
      obtain ⟨bound', later', limited', least', most', same, more', earliest'⟩ :=
        expandFrom_eq_error expanded
      rw [Nat.zero_add] at same
      obtain rfl : bound = bound' := Option.some.inj (limited.symm.trans limited')
      -- Two first generations are the same one.
      have alike : later = later' := by
        rcases Nat.lt_trichotomy later later' with before | equal | after
        · exact absurd ⟨bound, limited, more⟩ (earliest' later least before)
        · exact equal
        · exact absurd ⟨bound, limited, more'⟩ (earliest later' least' after)
      rw [same, alike]

theorem not_exceeds_iff :
    ¬ word.Exceeds limit ↔ ∀ bound, limit = some bound → (word.length : Int) ≤ bound := by
  simp only [Word.Exceeds, not_exists, not_and, Int.not_lt]

theorem expandCounted_count : grammar.expandCounted (.int count) limit = grammar.expand count limit := by
  have counted : Json.toIterations (.int count) = .ok count := by
    have natural : ¬ (count : Int) < 0 := by omega
    simp only [Json.toIterations, if_neg natural, Int.toNat_natCast]
  rw [expandCounted, counted]
  rfl

/-- Every generation replaces all symbols of the one before it, from the start word on. An
    expansion under a limit gives the last of the generations asked for if each of them has
    at most as many symbols as the limit allows. Otherwise it fails, and the fault names the
    first one with more, whatever becomes of those after it. The start word itself may have
    any number of symbols. -/
theorem expansion_under_limit (grammar : Grammar) (count : Nat) (limit : Option Int) :
    (grammar.rules.generation 0 grammar.start = grammar.start ∧
        ∀ done, grammar.rules.generation (done + 1) grammar.start =
          (grammar.rules.generation done grammar.start).flatMap grammar.rules.replacement) ∧
      (∀ word, grammar.expandCounted (.int count) limit = .ok word ↔
        word = grammar.rules.generation count grammar.start ∧
          ∀ bound, limit = some bound → ∀ later, 1 ≤ later → later ≤ count →
            ((grammar.rules.generation later grammar.start).length : Int) ≤ bound) ∧
      ∀ fault, grammar.expandCounted (.int count) limit = .error fault ↔
        ∃ bound first, limit = some bound ∧ 1 ≤ first ∧ first ≤ count ∧
          bound < (grammar.rules.generation first grammar.start).length ∧
          (∀ earlier, 1 ≤ earlier → earlier < first →
            ((grammar.rules.generation earlier grammar.start).length : Int) ≤ bound) ∧
          fault = .expansionLimit grammar.name bound first count ∧
          fault.message = "grammar " ++ quoted grammar.name ++ " exceeds " ++ toString bound ++
            " symbols at generation " ++ toString first ++ " (requested " ++ toString count ++ ")" := by
  rw [expandCounted_count]
  refine ⟨⟨rfl, fun done => grammar.rules.generation_succ done grammar.start⟩, fun word => ?_, fun fault => ?_⟩
  · simp only [expand_eq_ok, not_exceeds_iff]
    refine and_congr_right fun _ => ⟨?_, ?_⟩
    · intro within bound limited later least most
      exact within later least most bound limited
    · intro within later least most bound limited
      exact within bound limited later least most
  · rw [expand_eq_error]
    constructor
    · rintro ⟨bound, first, limited, least, most, rfl, more, earliest⟩
      refine ⟨bound, first, limited, least, most, more, ?_, rfl, rfl⟩
      intro earlier earlierLeast less
      exact not_exceeds_iff.mp (earliest earlier earlierLeast less) bound limited
    · rintro ⟨bound, first, limited, least, most, more, earliest, rfl, -⟩
      refine ⟨bound, first, limited, least, most, rfl, more, ?_⟩
      intro earlier earlierLeast less
      rw [not_exceeds_iff, limited]
      rintro _ ⟨⟩
      exact earliest earlier earlierLeast less

/-- The second generation is empty, but the first has a symbol too many. -/
example : Grammar.expandCounted
    ⟨"g", ['A', 'A'], .ofList [⟨['A'], ['B', 'B']⟩, ⟨['B'], []⟩], 90, {}, 5, ""⟩ (.int 2) (some 3) =
      .error (.expansionLimit "g" 3 1 2) := by rfl

end Grammar

end PlantDrawing
