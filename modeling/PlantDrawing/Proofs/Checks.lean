import PlantDrawing.Fault
import PlantDrawing.Proofs.Outcome

/-!
# Checks in a row

What is checked in a row is reported by the first check that fails (`FirstFault`). There is one
fault at most to report then, and none if all checks are kept. An operation follows a row of
checks if it ends with a result only when all of them are kept, and else with the fault of the
first that is not (`Follows`); an operation run on the result of another follows the checks of
the two in a row (`Follows.bind`).
-/
namespace PlantDrawing

/-- What must hold, and what is reported if it does not. -/
structure Check where
  holds : Prop
  reports : Fault → Prop
  unique : ∀ fault other, reports fault → reports other → fault = other

/-- A check that reports the same fault whenever it fails. -/
def Check.plain (holds : Prop) (fault : Fault) : Check where
  holds := holds
  reports := (· = fault)
  unique := fun _ _ one other => one.trans other.symm

/-- The fault of the first check in a row that fails. -/
inductive FirstFault : List Check → Fault → Prop
  | here {check : Check} {rest : List Check} {fault : Fault} (broken : ¬check.holds) (reported : check.reports fault) :
    FirstFault (check :: rest) fault
  | later {check : Check} {rest : List Check} {fault : Fault} (kept : check.holds) (first : FirstFault rest fault) :
    FirstFault (check :: rest) fault

variable {checks more : List Check} {later : List (List Check)} {fault other : Fault}

theorem Check.kept_cons (kept : ∀ check ∈ checks, check.holds) (rest : ∀ check ∈ later.flatten, check.holds) :
    ∀ check ∈ (checks :: later).flatten, check.holds := by
  rw [List.flatten_cons]
  exact List.forall_mem_append.mpr ⟨kept, rest⟩

namespace FirstFault

theorem not_all (first : FirstFault checks fault) : ¬∀ check ∈ checks, check.holds := by
  induction first with
  | here broken _ => exact fun kept => broken (kept _ List.mem_cons_self)
  | later _ _ ih => exact fun kept => ih fun check member => kept check (List.mem_cons_of_mem _ member)

theorem unique (one : FirstFault checks fault) (another : FirstFault checks other) : fault = other := by
  induction one with
  | here broken reported =>
    cases another with
    | here _ reported' => exact Check.unique _ _ _ reported reported'
    | later kept _ => exact absurd kept broken
  | later kept _ ih =>
    cases another with
    | here broken _ => exact absurd kept broken
    | later _ first' => exact ih first'

theorem append_left (first : FirstFault checks fault) (more : List Check) : FirstFault (checks ++ more) fault := by
  induction first with
  | here broken reported => exact .here broken reported
  | later kept _ ih => exact .later kept ih

theorem append_right (kept : ∀ check ∈ checks, check.holds) (first : FirstFault more fault) :
    FirstFault (checks ++ more) fault := by
  induction checks with
  | nil => exact first
  | cons check rest ih =>
    obtain ⟨head, tail⟩ := List.forall_mem_cons.mp kept
    exact .later head (ih tail)

theorem append_iff :
    FirstFault (checks ++ more) fault ↔
      FirstFault checks fault ∨ (∀ check ∈ checks, check.holds) ∧ FirstFault more fault := by
  constructor
  · intro first
    induction checks with
    | nil => exact .inr ⟨nofun, first⟩
    | cons check rest ih =>
      cases first with
      | here broken reported => exact .inl (.here broken reported)
      | later kept first =>
        rcases ih first with first | ⟨others, first⟩
        · exact .inl (.later kept first)
        · exact .inr ⟨List.forall_mem_cons.mpr ⟨kept, others⟩, first⟩
  · rintro (first | ⟨kept, first⟩)
    · exact first.append_left more
    · exact first.append_right kept

end FirstFault

/-- An operation that ends with a result if all checks are kept, and with the first fault if not. -/
structure Follows {α : Type} (outcome : Except Fault α) (checks : List Check) (result : α → Prop) : Prop where
  ok : ∀ value, outcome = .ok value → (∀ check ∈ checks, check.holds) ∧ result value
  error : ∀ fault, outcome = .error fault → FirstFault checks fault

namespace Follows

variable {α β : Type} {outcome : Except Fault α} {next : α → Except Fault β} {result : α → Prop} {final : β → Prop}
  {value : α}

theorem of_kept (kept : ∀ check ∈ checks, check.holds) (known : result value) : Follows (.ok value) checks result := by
  refine ⟨?_, nofun⟩
  rintro _ ⟨⟩
  exact ⟨kept, known⟩

/-- An operation that refuses what breaks a check, before anything else. -/
theorem guarded {broken holds : Prop} [Decidable broken] (opposite : broken ↔ ¬holds)
    (next : Follows outcome checks result) :
    Follows (if broken then .error fault else outcome) (.plain holds fault :: checks) result := by
  by_cases refused : broken
  · rw [if_pos refused]
    refine ⟨nofun, ?_⟩
    rintro _ ⟨⟩
    exact .here (opposite.mp refused) rfl
  · rw [if_neg refused]
    have kept : holds := Classical.byContradiction fun lost => refused (opposite.mpr lost)
    refine ⟨fun value ended => ?_, fun other failed => .later kept (next.error other failed)⟩
    obtain ⟨others, known⟩ := next.ok value ended
    exact ⟨List.forall_mem_cons.mpr ⟨kept, others⟩, known⟩

theorem mono {weaker : α → Prop} (follows : Follows outcome checks result)
    (implies : ∀ value, result value → weaker value) : Follows outcome checks weaker :=
  ⟨fun value ended => (follows.ok value ended).imp_right (implies value), follows.error⟩

theorem bind_append (first : Follows outcome checks result)
    (second : ∀ value, result value → Follows (next value) more final) :
    Follows (outcome >>= next) (checks ++ more) final := by
  refine ⟨fun _ ended => ?_, fun fault failed => ?_⟩
  · obtain ⟨value, began, ended⟩ := Outcome.bind_eq_ok.mp ended
    obtain ⟨kept, known⟩ := first.ok value began
    obtain ⟨kept', known'⟩ := (second value known).ok _ ended
    exact ⟨List.forall_mem_append.mpr ⟨kept, kept'⟩, known'⟩
  · rcases Outcome.bind_eq_error.mp failed with failed | ⟨value, began, failed⟩
    · exact (first.error fault failed).append_left more
    · obtain ⟨kept, known⟩ := first.ok value began
      exact ((second value known).error fault failed).append_right kept

theorem bind (first : Follows outcome checks result)
    (second : ∀ value, result value → Follows (next value) later.flatten final) :
    Follows (outcome >>= next) (checks :: later).flatten final := by
  rw [List.flatten_cons]
  exact first.bind_append second

theorem map {change : α → β} (follows : Follows outcome checks result)
    (changed : ∀ value, result value → final (change value)) : Follows (outcome.map change) checks final := by
  refine ⟨fun _ ended => ?_, fun fault failed => follows.error fault (Outcome.map_eq_error.mp failed)⟩
  obtain ⟨value, began, rfl⟩ := Outcome.map_eq_ok.mp ended
  exact (follows.ok value began).imp_right (changed value)

theorem succeeds_iff (follows : Follows outcome checks result) :
    (∃ value, outcome = .ok value) ↔ ∀ check ∈ checks, check.holds := by
  refine ⟨fun ⟨value, ended⟩ => (follows.ok value ended).1, fun kept => ?_⟩
  cases outcome with
  | ok value => exact ⟨value, rfl⟩
  | error fault => exact absurd kept (follows.error fault rfl).not_all

theorem fails_iff (follows : Follows outcome checks result) : outcome = .error fault ↔ FirstFault checks fault := by
  refine ⟨follows.error fault, fun first => ?_⟩
  cases outcome with
  | ok value => exact absurd (follows.ok value rfl).1 first.not_all
  | error other => rw [(follows.error other rfl).unique first]

end Follows

end PlantDrawing
