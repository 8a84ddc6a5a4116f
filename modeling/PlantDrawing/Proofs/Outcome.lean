/-!
# Outcomes

How an operation that can fail gets its result. Operations are put together by
running one on the result of another, and by changing a result or a fault on
the way; each rule here takes an outcome apart into those of its parts.
-/
namespace PlantDrawing.Outcome

variable {ε ε' α β : Type _}

/-- An outcome is a result, or one of the faults that are allowed. -/
def FailsWith (allowed : ε → Prop) (outcome : Except ε α) : Prop :=
  ∀ fault, outcome = .error fault → allowed fault

theorem bind_eq_ok {first : Except ε α} {second : α → Except ε β} {result : β} :
    first >>= second = .ok result ↔ ∃ value, first = .ok value ∧ second value = .ok result := by
  cases first with
  | error fault => simp [Bind.bind, Except.bind]
  | ok value => simp [Bind.bind, Except.bind]

theorem bind_eq_error {first : Except ε α} {second : α → Except ε β} {fault : ε} :
    first >>= second = .error fault ↔
      first = .error fault ∨ ∃ value, first = .ok value ∧ second value = .error fault := by
  cases first with
  | error other => simp [Bind.bind, Except.bind]
  | ok value => simp [Bind.bind, Except.bind]

/-- Two operations fail alike if they begin alike and go on to fail alike. -/
theorem bind_error_congr {γ : Type _} {first : Except ε α} {second : α → Except ε β} {other : α → Except ε γ}
    {fault : ε} (same : ∀ value, first = .ok value → (second value = .error fault ↔ other value = .error fault)) :
    first >>= second = .error fault ↔ first >>= other = .error fault := by
  rw [bind_eq_error, bind_eq_error]
  exact or_congr_right (exists_congr fun value => and_congr_right fun began => same value began)

theorem map_eq_ok {outcome : Except ε α} {change : α → β} {result : β} :
    outcome.map change = .ok result ↔ ∃ value, outcome = .ok value ∧ change value = result := by
  cases outcome with
  | error fault => simp [Except.map]
  | ok value => simp [Except.map]

theorem map_eq_error {outcome : Except ε α} {change : α → β} {fault : ε} :
    outcome.map change = .error fault ↔ outcome = .error fault := by
  cases outcome with
  | error other => simp [Except.map]
  | ok value => simp [Except.map]

theorem mapError_eq_ok {outcome : Except ε α} {change : ε → ε'} {value : α} :
    outcome.mapError change = .ok value ↔ outcome = .ok value := by
  cases outcome with
  | error fault =>
    change Except.error (change fault) = Except.ok value ↔ _
    simp only [reduceCtorEq]
  | ok other =>
    change Except.ok other = Except.ok value ↔ _
    simp only [Except.ok.injEq]

theorem mapError_eq_error {outcome : Except ε α} {change : ε → ε'} {result : ε'} :
    outcome.mapError change = .error result ↔ ∃ fault, outcome = .error fault ∧ change fault = result := by
  cases outcome with
  | error fault =>
    change Except.error (change fault) = Except.error result ↔ _
    simp only [Except.error.injEq, exists_eq_left']
  | ok value =>
    change Except.ok value = Except.error result ↔ _
    simp only [reduceCtorEq, false_and, exists_false]

theorem mapError_bind (first : Except ε α) (second : α → Except ε β) (change : ε → ε') :
    (first >>= second).mapError change = first.mapError change >>= fun value => (second value).mapError change := by
  cases first with
  | error fault => rfl
  | ok value => rfl

theorem exists_of_toBool {outcome : Except ε α} (succeeded : outcome.toBool = true) :
    ∃ value, outcome = .ok value := by
  cases outcome with
  | error fault => cases succeeded
  | ok value => exact ⟨value, rfl⟩

namespace FailsWith

variable {allowed more : ε → Prop}

theorem ok (value : α) : FailsWith allowed (.ok value : Except ε α) := nofun

theorem error {fault : ε} (cause : allowed fault) : FailsWith allowed (.error fault : Except ε α) := by
  rintro _ ⟨⟩
  exact cause

theorem mono {outcome : Except ε α} (fails : FailsWith allowed outcome)
    (weaker : ∀ fault, allowed fault → more fault) : FailsWith more outcome :=
  fun fault failed => weaker fault (fails fault failed)

theorem bind {first : Except ε α} {second : α → Except ε β} (early : FailsWith allowed first)
    (late : ∀ value, first = .ok value → FailsWith allowed (second value)) :
    FailsWith allowed (first >>= second) := by
  intro fault failed
  rcases bind_eq_error.mp failed with failed | ⟨value, result, failed⟩
  · exact early fault failed
  · exact late value result fault failed

theorem map {outcome : Except ε α} {change : α → β} (fails : FailsWith allowed outcome) :
    FailsWith allowed (outcome.map change) :=
  fun fault failed => fails fault (map_eq_error.mp failed)

theorem mapError {outcome : Except ε' α} {change : ε' → ε} {before : ε' → Prop} (fails : FailsWith before outcome)
    (changed : ∀ fault, before fault → allowed (change fault)) :
    FailsWith allowed (outcome.mapError change) := by
  intro _ failed
  obtain ⟨fault, early, rfl⟩ := mapError_eq_error.mp failed
  exact changed fault (fails fault early)

end FailsWith

end PlantDrawing.Outcome
