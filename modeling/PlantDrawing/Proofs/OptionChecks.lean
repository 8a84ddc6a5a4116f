import PlantDrawing.Proofs.OneLine

/-!
# Checks of options

What options have passed when they are accepted (`SvgOptions.Accepted`), and what can be
wrong with those that are not: a fault told on one line, a key that no option has, a whole
number too large for a double, or a file that is no JSON text or one beyond the runtime
(`SvgOptions.ofBytes_faults`).
-/
namespace PlantDrawing

open Outcome (FailsWith)

variable {path text setting key : String} {bytes : ByteArray} {value : Json} {members : List (Text × Json)}
  {options : SvgOptions} {runtime : Runtime}

/-! ## Accepted options -/

namespace SvgOptions

/-- Everything that is checked of options. -/
structure Accepted (options : SvgOptions) : Prop where
  margin : 0 ≤ options.margin
  precision : 0 ≤ options.precision ∧ options.precision ≤ 10
  width : ∀ x, options.width = some x → 0 < x
  height : ∀ x, options.height = some x → 0 < x
  fade : 0 < options.fade ∧ options.fade ≤ 1

theorem accepted_default : Accepted {} :=
  ⟨by decide, by decide, nofun, nofun, by decide⟩

theorem require_eq_ok {holds : Prop} [Decidable holds] {fault : ConfigFault} {done : Unit} :
    require holds fault = .ok done ↔ holds := by
  unfold require
  by_cases kept : holds
  · simp [kept]
  · simp [kept]

theorem size_positive {size : Option Float} (read : SvgOptions.size members key = .ok size) :
    ∀ x, size = some x → 0 < x := by
  rintro x rfl
  unfold SvgOptions.size at read
  split at read
  · cases read
  · cases read
  · obtain ⟨_, _, read⟩ := Outcome.bind_eq_ok.mp read
    obtain ⟨_, positive, read⟩ := Outcome.bind_eq_ok.mp read
    cases read
    exact require_eq_ok.mp positive

theorem accepted_ofJson (read : ofJson value = .ok options) : options.Accepted := by
  obtain ⟨_, _, read⟩ := Outcome.bind_eq_ok.mp read
  obtain ⟨_, _, read⟩ := Outcome.bind_eq_ok.mp read
  obtain ⟨_, _, read⟩ := Outcome.bind_eq_ok.mp read
  obtain ⟨_, margin, read⟩ := Outcome.bind_eq_ok.mp read
  obtain ⟨_, _, read⟩ := Outcome.bind_eq_ok.mp read
  obtain ⟨_, precision, read⟩ := Outcome.bind_eq_ok.mp read
  obtain ⟨_, _, read⟩ := Outcome.bind_eq_ok.mp read
  obtain ⟨_, _, read⟩ := Outcome.bind_eq_ok.mp read
  obtain ⟨_, width, read⟩ := Outcome.bind_eq_ok.mp read
  obtain ⟨_, height, read⟩ := Outcome.bind_eq_ok.mp read
  obtain ⟨_, _, read⟩ := Outcome.bind_eq_ok.mp read
  obtain ⟨_, _, read⟩ := Outcome.bind_eq_ok.mp read
  obtain ⟨_, fade, read⟩ := Outcome.bind_eq_ok.mp read
  obtain ⟨_, _, read⟩ := Outcome.bind_eq_ok.mp read
  cases read
  exact ⟨require_eq_ok.mp margin, require_eq_ok.mp precision, size_positive width, size_positive height,
    require_eq_ok.mp fade⟩

theorem accepted_ofBytes (read : ofBytes runtime path bytes = .ok options) : options.Accepted := by
  unfold ofBytes at read
  split at read
  · obtain ⟨_, _, read⟩ := Outcome.bind_eq_ok.mp read
    exact accepted_ofJson read
  · cases read

end SvgOptions

/-! ## Refused options -/

/-- What can be wrong with a JSON value that is read as options. -/
inductive ValueFault : Fault → Prop
  | told {fault : Fault} (told : fault.Told) : ValueFault fault
  | unknownKeys {place : String} {keys : List Text} (line : OneLine place) :
    ValueFault (.config (.unknownKeys place keys))
  | tooLarge : ValueFault (.arithmetic .overflow)

namespace Json

theorem toNumber_faults (line : OneLine setting) (value : Json) : FailsWith ValueFault (value.toNumber setting) := by
  unfold toNumber
  split
  · rename_i n
    rintro _ failed
    obtain ⟨cause, large, rfl⟩ := Outcome.mapError_eq_error.mp failed
    unfold Double.ofInt at large
    dsimp only at large
    split at large <;> cases large
    exact .tooLarge
  · exact .ok _
  · exact .error (.told (told_wrongKind line _))

theorem toInteger_faults (line : OneLine setting) (value : Json) : FailsWith ValueFault (value.toInteger setting) := by
  unfold toInteger
  split
  · exact .ok _
  · exact .error (.told (told_wrongKind line _))

theorem toText_faults (line : OneLine setting) (value : Json) : FailsWith ValueFault (value.toText setting) := by
  unfold toText
  split
  · exact .ok _
  · exact .error (.told (told_wrongKind line _))

theorem toTruth_faults (line : OneLine setting) (value : Json) : FailsWith ValueFault (value.toTruth setting) := by
  unfold toTruth
  split
  · exact .ok _
  · exact .error (.told (told_wrongKind line _))

theorem toMembers_faults (line : OneLine setting) (value : Json) : FailsWith ValueFault (value.toMembers setting) := by
  unfold toMembers
  split
  · exact .ok _
  · exact .error (.told (told_wrongKind line _))

end Json

namespace SvgOptions

theorem checkKeys_faults {place : String} (line : OneLine place) (known : List Text)
    (members : List (Text × Json)) : FailsWith ValueFault (checkKeys place known members) := by
  unfold checkKeys
  dsimp only
  split
  · exact .ok _
  · exact .error (.unknownKeys line)

theorem require_faults {holds : Prop} [Decidable holds] {fault : ConfigFault} (told : Fault.Told (.config fault)) :
    FailsWith ValueFault (require holds fault) := by
  unfold require
  split
  · exact .ok _
  · exact .error (.told told)

theorem optional_faults {α : Type} {default : α} {convert : String → Json → Except Fault α}
    (converts : ∀ value, FailsWith ValueFault (convert key value)) :
    FailsWith ValueFault (optional members key default convert) := by
  unfold optional
  split
  · exact .ok _
  · exact converts _

theorem size_faults (line : OneLine key) : FailsWith ValueFault (SvgOptions.size members key) := by
  unfold SvgOptions.size
  split
  · exact .ok _
  · exact .ok _
  · exact .bind (Json.toNumber_faults line _) fun _ _ =>
      .bind (require_faults (told_notPositive line)) fun _ _ => .ok _

theorem paint_faults (line : OneLine key) : FailsWith ValueFault (paint members key) := by
  unfold paint
  split
  · exact .ok _
  · exact .ok _
  · exact .map (Json.toText_faults line _)

theorem styleText_faults {default : Text} (line : OneLine key) :
    FailsWith ValueFault (styleText members key default) := by
  unfold styleText
  split
  · exact .ok _
  · exact Json.toText_faults (.append (by decide) line) _

theorem readStyle_faults (value : Json) : FailsWith ValueFault (readStyle value) := by
  refine .bind (Json.toMembers_faults (by decide) value) fun members _ => ?_
  refine .bind (checkKeys_faults (by decide) _ _) fun _ _ => ?_
  refine .bind (styleText_faults (by decide)) fun color _ => ?_
  refine .bind (styleText_faults (by decide)) fun linecap _ => ?_
  exact .bind (styleText_faults (by decide)) fun linejoin _ => .ok _

theorem ofJson_faults (value : Json) : FailsWith ValueFault (ofJson value) := by
  refine .bind (Json.toMembers_faults (by decide) value) fun members _ => ?_
  refine .bind (checkKeys_faults (by decide) _ _) fun _ _ => ?_
  refine .bind (optional_faults (Json.toNumber_faults (by decide))) fun margin _ => ?_
  refine .bind (require_faults ⟨rfl, by decide⟩) fun _ _ => ?_
  refine .bind (optional_faults (Json.toInteger_faults (by decide))) fun precision _ => ?_
  refine .bind (require_faults ⟨rfl, by decide⟩) fun _ _ => ?_
  refine .bind (optional_faults (Json.toTruth_faults (by decide))) fun flipY _ => ?_
  refine .bind (optional_faults (Json.toNumber_faults (by decide))) fun rotation _ => ?_
  refine .bind (size_faults (by decide)) fun width _ => ?_
  refine .bind (size_faults (by decide)) fun height _ => ?_
  refine .bind (paint_faults (by decide)) fun background _ => ?_
  refine .bind (optional_faults (Json.toNumber_faults (by decide))) fun fade _ => ?_
  refine .bind (require_faults ⟨rfl, by decide⟩) fun _ _ => ?_
  exact .bind (readStyle_faults _) fun style _ => .ok _

/-- What can be wrong with a file of options. -/
theorem ofBytes_faults (runtime : Runtime) (path : String) (bytes : ByteArray) :
    FailsWith
      (fun fault => fault = .undecodable ∧ String.fromUTF8? bytes = none ∨
        (∃ text cause, String.fromUTF8? bytes = some text ∧
          Json.read runtime (String.ofList (unifyLines text.toList)) = .error cause ∧ fault = readFault path cause) ∨
        ValueFault fault)
      (ofBytes runtime path bytes) := by
  unfold ofBytes
  split
  · rename_i text decoded
    refine .bind ?_ fun value _ => (ofJson_faults value).mono fun _ wrong => .inr (.inr wrong)
    intro _ failed
    obtain ⟨cause, unread, rfl⟩ := Outcome.mapError_eq_error.mp failed
    exact .inr (.inl ⟨text, cause, decoded, unread, rfl⟩)
  · rename_i unreadable
    exact .error (.inl ⟨rfl, unreadable⟩)

end SvgOptions

/-! ## Wording -/

theorem oneLine_invalidJson (fault : Json.SyntaxFault) (line : OneLine path) :
    OneLine (ConfigFault.message (.invalidJson path fault)) := by
  have problem : OneLine fault.problem.message := by
    cases fault.problem <;> decide
  unfold ConfigFault.message Json.SyntaxFault.message
  simp only [oneLine_append, line, problem, oneLine_nat, and_true]
  decide

theorem oneLine_intercalate {separator : String} {texts : List String} (line : OneLine separator)
    (lines : ∀ text ∈ texts, OneLine text) : OneLine (separator.intercalate texts) := by
  induction texts with
  | nil => exact (by decide : OneLine "")
  | cons first rest ih =>
    obtain ⟨head, tail⟩ := List.forall_mem_cons.mp lines
    cases rest with
    | nil =>
      rw [String.intercalate_singleton]
      exact head
    | cons second others =>
      rw [String.intercalate_cons_cons]
      exact .append (.append head line) (ih tail)

theorem oneLine_unknownKeys {place : String} {keys : List Text} (line : OneLine place)
    (lines : ∀ key ∈ keys, OneLine key.shown) : OneLine (ConfigFault.message (.unknownKeys place keys)) := by
  unfold ConfigFault.message
  refine .append (.append (.append (by decide) line) (by decide)) (oneLine_intercalate (by decide) ?_)
  exact List.forall_mem_map.mpr lines

end PlantDrawing
