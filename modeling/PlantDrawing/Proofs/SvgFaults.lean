import PlantDrawing.Proofs.OptionChecks
import PlantDrawing.Proofs.SvgTree

/-!
# What can stop the document of a drawing

Under options that are accepted the document of a drawing comes out, unless a fault is told
on one line, the drawing cannot be turned, a band of it has no width, or a text of the
options is no string (`SvgDocument.tree_faults`). The last is found out when all the rest has
gone well.
-/
namespace PlantDrawing

open Outcome (FailsWith)

variable {options : SvgOptions}

namespace SvgDocument

/-- What can stop the document of a drawing under options that are accepted. -/
inductive DocumentFault (options : SvgOptions) : Fault → Prop
  | told {fault : Fault} (told : fault.Told) : DocumentFault options fault
  | rotation (infinite : (Double.radians options.rotation).isInf = true) :
    DocumentFault options (.arithmetic .undefined)
  | fading {depth : Int} {cause : ArithmeticFault} (powerless : Double.power options.fade depth = .error cause) :
    DocumentFault options (.arithmetic cause)
  | unencodable (stringless : palette options = .error .unencodable) : DocumentFault options .unencodable

theorem rotate_faults (segments : List Segment) (angle : Float) :
    FailsWith (fun cause => cause = .undefined ∧ (Double.radians angle).isInf = true)
      (Segment.rotate segments angle) := by
  unfold Segment.rotate
  split
  · exact .ok _
  · refine .bind ?_ fun cosine _ => .bind ?_ fun sine _ => .ok _
    · unfold Double.cosine
      split
      · rename_i infinite
        exact .error ⟨rfl, infinite⟩
      · exact .ok _
    · unfold Double.sine
      split
      · rename_i infinite
        exact .error ⟨rfl, infinite⟩
      · exact .ok _

theorem bands_faults (stroke : Float) (layers : List Layer) :
    FailsWith (DocumentFault options) (bands stroke options.fade layers) := by
  induction layers with
  | nil => exact .ok _
  | cons layer rest ih =>
    refine .bind (.bind ?_ fun factor _ => .ok _) fun first _ => .bind ih fun others _ => .ok _
    rintro _ failed
    obtain ⟨cause, powerless, rfl⟩ := Outcome.mapError_eq_error.mp failed
    exact .fading powerless

theorem checkPlaces_faults {allowed : Fault → Prop} (accepted : options.Accepted) :
    FailsWith allowed (Decimal.checkPlaces options.precision) := by
  obtain ⟨least, most⟩ := accepted.precision
  unfold Decimal.checkPlaces
  split
  · rename_i unfit
    unfold Decimal.mostPlaces at unfit
    omega
  · exact .ok _

theorem sizeAttribute_faults {allowed : Fault → Prop} (accepted : options.Accepted) (name : String)
    (size : Option Float) : FailsWith allowed (sizeAttribute name size options.precision) := by
  unfold sizeAttribute
  split
  · exact .ok _
  · split
    · exact .ok _
    · exact .bind (.bind (checkPlaces_faults accepted) fun _ _ => .ok _) fun _ _ => .ok _

theorem encode_faults (text : Text) : FailsWith (· = .unencodable) (encode text) := by
  unfold encode
  split
  · exact .ok _
  · exact .error rfl

theorem mapM_encode_faults (text : Option Text) : FailsWith (· = .unencodable) (text.mapM encode) := by
  cases text with
  | none => exact .ok _
  | some text =>
    rw [Option.mapM_some]
    exact .map (encode_faults text)

theorem palette_faults (options : SvgOptions) : FailsWith (· = .unencodable) (palette options) := by
  refine .bind (mapM_encode_faults _) fun _ _ => .bind (encode_faults _) fun _ _ => ?_
  exact .bind (encode_faults _) fun _ _ => .bind (encode_faults _) fun _ _ => .ok _

/-- Options have no palette if one of their texts is no string. -/
theorem palette_eq_error {fault : Fault} : palette options = .error fault ↔ fault = .unencodable ∧
    ¬ ∃ colors : Palette, options.background = colors.background.map .string ∧ options.style = colors.style := by
  constructor
  · intro failed
    refine ⟨palette_faults options fault failed, ?_⟩
    rintro ⟨colors, texts⟩
    rw [palette_eq_ok.mpr texts] at failed
    cases failed
  · rintro ⟨rfl, stringless⟩
    cases encoded : palette options with
    | ok colors => exact absurd ⟨colors, palette_eq_ok.mp encoded⟩ stringless
    | error fault => rw [palette_faults options fault encoded]

/-- A document fails to come out if something is told, if its drawing cannot be turned, if
    one of its bands has no width, or if one of its texts is no string. -/
theorem tree_failsWith {allowed : Fault → Prop} {segments : List Segment} (accepted : options.Accepted) (stroke : Float)
    (title : Option String) (told : ∀ fault : Fault, fault.Told → allowed fault)
    (turning : (Double.radians options.rotation).isInf = true → allowed (.arithmetic .undefined))
    (banded : ∀ turned, Segment.rotate segments options.rotation = .ok turned →
      FailsWith allowed (bands stroke options.fade (Layer.ofSegments turned)))
    (stringless : palette options = .error .unencodable → allowed .unencodable) :
    FailsWith allowed (SvgDocument.tree segments options stroke title) := by
  refine .bind ((Settings.checkPositive_told (by decide) stroke).mono told) fun _ _ => ?_
  refine .bind ((rotate_faults segments _).mapError ?_) fun turned rotated => ?_
  · rintro _ ⟨rfl, infinite⟩
    exact turning infinite
  refine .bind (.bind (sizeAttribute_faults accepted _ _) fun _ _ =>
    .bind (sizeAttribute_faults accepted _ _) fun _ _ => .ok _) fun sizes _ => ?_
  split
  · exact .ok _
  · refine .bind ?_ fun page _ => .bind ?_ fun colors _ => .ok _
    · unfold layout
      dsimp only
      split
      · exact .bind (checkPlaces_faults accepted) fun _ _ =>
          .bind (banded turned (Outcome.mapError_eq_ok.mp rotated)) fun _ _ => .ok _
      · exact .error (told _ ⟨rfl, by decide⟩)
    · intro fault failed
      obtain rfl := palette_faults options fault failed
      exact stringless failed

theorem tree_faults (segments : List Segment) (accepted : options.Accepted) (stroke : Float) (title : Option String) :
    FailsWith (DocumentFault options) (SvgDocument.tree segments options stroke title) :=
  tree_failsWith accepted stroke title (fun _ told => .told told) .rotation (fun _ _ => bands_faults stroke _) .unencodable

/-- A document that cannot be encoded has nothing else wrong with it. -/
theorem stringless_of_unencodable {segments : List Segment} {stroke : Float} {title : Option String}
    (accepted : options.Accepted) (failed : SvgDocument.tree segments options stroke title = .error .unencodable) :
    palette options = .error .unencodable := by
  cases tree_faults segments accepted stroke title _ failed with
  | told told => exact absurd told.asked (by decide)
  | unencodable stringless => exact stringless

end SvgDocument

end PlantDrawing
