import PlantDrawing.Proofs.OptionChecks
import PlantDrawing.Proofs.OptionEntries

/-!
# The domain of the options

Which JSON values are options, what options they are, and what is reported of the others. Each
option is what its entry stands for, or the default if there is none (`SvgOptions.Describes`);
together with the limits that is all it takes for a value to be accepted
(`SvgOptions.ofJson_eq_ok`). Of what is not accepted the first of a row of checks that fails is
reported (`SvgOptions.checks`, `SvgOptions.ofJson_eq_error`).
-/
namespace PlantDrawing

namespace SvgOptions

open Json (Supplies IsNumber IsInteger IsText IsTruth IsOptional unlessNull)

/-- The options that an empty object stands for. -/
def defaults : SvgOptions := {}

/-- What is checked of a size. -/
def sizeChecks (key : String) (entry : Option Json) : List Check := List.flatten
  [Check.number key (unlessNull entry),
    [.limit (IsOptional IsNumber) none entry (fun size => ∀ x, size = some x → 0 < x) (.notPositive key)]]

/-- What is checked of a style, in this order. -/
def styleChecks (style : Json) : List Check := List.flatten
  [[.kind "style" .object (some style)],
    [.knownKeys "style" styleKeys style.entryAt],
    [.kind "style.stroke" .string (style.entryAt "stroke")],
    [.kind "style.stroke_linecap" .string (style.entryAt "stroke_linecap")],
    [.kind "style.stroke_linejoin" .string (style.entryAt "stroke_linejoin")]]

/-- The style among the entries of the options. -/
def styleEntry (entry : Text → Option Json) : Json := (entry "style").getD (.obj [])

/-- What is checked of the entries of the options, in this order. -/
def entryChecks (entry : Text → Option Json) : List (List Check) :=
  [[.knownKeys "option" keys entry],
    Check.number "margin" (entry "margin"),
    [.limit IsNumber defaults.margin (entry "margin") (0 ≤ ·) (.negative "margin")],
    [.kind "precision" .integer (entry "precision")],
    [.limit IsInteger defaults.precision (entry "precision") (fun n => 0 ≤ n ∧ n ≤ 10) .precisionRange],
    [.kind "flip_y" .boolean (entry "flip_y")],
    Check.number "rotate" (entry "rotate"),
    sizeChecks "width" (entry "width"),
    sizeChecks "height" (entry "height"),
    [.kind "background" .string (unlessNull (entry "background"))],
    Check.number "depth_fade" (entry "depth_fade"),
    [.limit IsNumber defaults.fade (entry "depth_fade") (fun x => 0 < x ∧ x ≤ 1) .fadeRange],
    styleChecks (styleEntry entry)]

/-- What is checked of a value that is read as options, in this order. -/
def checks (value : Json) : List Check :=
  List.flatten ([.kind "options" .object (some value)] :: entryChecks value.entryAt)

/-- The style that a value stands for. -/
structure DescribesStyle (value : Json) (style : StrokeStyle) : Prop where
  object : ∃ members, value = .obj members
  known : ∀ key, value.entryAt key ≠ none → key ∈ styleKeys
  color : Supplies IsText defaults.style.color (value.entryAt "stroke") style.color
  linecap : Supplies IsText defaults.style.linecap (value.entryAt "stroke_linecap") style.linecap
  linejoin : Supplies IsText defaults.style.linejoin (value.entryAt "stroke_linejoin") style.linejoin

/-- The options that a value stands for: an object with known keys only, in which each key has
    a value of the right kind or none. -/
structure Describes (value : Json) (options : SvgOptions) : Prop where
  object : ∃ members, value = .obj members
  known : ∀ key, value.entryAt key ≠ none → key ∈ keys
  margin : Supplies IsNumber defaults.margin (value.entryAt "margin") options.margin
  precision : Supplies IsInteger defaults.precision (value.entryAt "precision") options.precision
  flipY : Supplies IsTruth defaults.flipY (value.entryAt "flip_y") options.flipY
  rotation : Supplies IsNumber defaults.rotation (value.entryAt "rotate") options.rotation
  width : Supplies (IsOptional IsNumber) none (value.entryAt "width") options.width
  height : Supplies (IsOptional IsNumber) none (value.entryAt "height") options.height
  background : Supplies (IsOptional IsText) none (value.entryAt "background") options.background
  fade : Supplies IsNumber defaults.fade (value.entryAt "depth_fade") options.fade
  style : DescribesStyle (styleEntry value.entryAt) options.style

end SvgOptions

/-! ## Following the checks -/

namespace SvgOptions

open Json

variable {α : Type} {members : List (Text × Json)} {key : String} {default : α}
  {convert : String → Json → Except Fault α} {Means : Json → α → Prop}

theorem nodup_eraseDups (texts : List Text) : texts.eraseDups.Nodup := by
  induction size : texts.length using Nat.strongRecOn generalizing texts with
  | ind n ih =>
    cases texts with
    | nil => exact List.nodup_nil
    | cons first rest =>
      rw [List.eraseDups_cons, List.nodup_cons, List.mem_eraseDups]
      refine ⟨by simp, ih _ ?_ _ rfl⟩
      exact size ▸ Nat.lt_succ_of_le (List.length_filter_le _ rest)

/-- Texts without their repetitions, sorted, are in increasing order. -/
theorem sorted_distinct (texts : List Text) :
    (texts.eraseDups.mergeSort fun a b => decide (a ≤ b)).Pairwise (· < ·) := by
  have sorted := @List.pairwise_mergeSort _ (fun a b : Text => decide (a ≤ b))
    (by simpa using fun _ _ _ => Text.le_trans) (by simpa using Text.le_total) texts.eraseDups
  have distinct := (List.mergeSort_perm texts.eraseDups fun a b => decide (a ≤ b)).nodup_iff.mpr (nodup_eraseDups texts)
  exact (sorted.and distinct).imp fun both => Text.lt_of_le_of_ne (of_decide_eq_true both.1) both.2

theorem checkKeys_follows (place : String) (known : List Text) (members : List (Text × Json)) :
    Follows (checkKeys place known members) [.knownKeys place known (obj members).entryAt]
      fun _ => ∀ key, (obj members).entryAt key ≠ none → key ∈ known := by
  have named (key : Text) : key ∈ (members.map Prod.fst).filter (fun key => !known.contains key) ↔
      (obj members).entryAt key ≠ none ∧ key ∉ known := by
    simp [entryAt_ne_none]
  unfold checkKeys
  dsimp only
  split
  · rename_i none
    have kept (key : Text) (there : (obj members).entryAt key ≠ Option.none) : key ∈ known := by
      by_contra unknown
      exact List.not_mem_nil (List.isEmpty_iff.mp none ▸ (named key).mpr ⟨there, unknown⟩)
    exact .of_kept (List.forall_mem_singleton.mpr kept) kept
  · rename_i some
    obtain ⟨key, member⟩ := List.exists_mem_of_ne_nil _ fun none => some (List.isEmpty_iff.mpr none)
    obtain ⟨there, unknown⟩ := (named key).mp member
    refine ⟨nofun, ?_⟩
    rintro _ ⟨⟩
    refine .here (fun kept => unknown (kept key there)) ⟨_, rfl, sorted_distinct _, fun key => ?_⟩
    rw [List.mem_mergeSort, List.mem_eraseDups, named]

theorem require_follows {entry : Option Json} {x : α} {within : α → Prop} {holds : Prop} [Decidable holds]
    (fault : ConfigFault) (functional : Functional Means) (given : Supplies Means default entry x)
    (same : holds ↔ within x) :
    Follows (require holds fault) [.limit Means default entry within fault] fun _ => True := by
  unfold require
  split
  · rename_i kept
    exact .of_kept (Check.limit_supplied functional given (same.mp kept)) trivial
  · rename_i broken
    refine ⟨nofun, ?_⟩
    rintro _ ⟨⟩
    exact .here (fun kept => broken (same.mpr (kept x given))) rfl

theorem optional_follows {row : Option Json → List Check} (absent : ∀ check ∈ row none, check.holds)
    (converts : ∀ value, Follows (convert key value) (row (some value)) (Means value)) :
    Follows (optional members key default convert) (row ((obj members).entryAt key))
      (Supplies Means default ((obj members).entryAt key)) := by
  unfold optional
  change Follows _ (row (member? members key)) (Supplies Means default (member? members key))
  cases member? members key with
  | none => exact .of_kept absent .absent
  | some value => exact (converts value).mono fun _ means => .present means

theorem number_follows (members : List (Text × Json)) (key : String) (default : Float) :
    Follows (optional members key default toNumber) (Check.number key ((obj members).entryAt key))
      (Supplies IsNumber default ((obj members).entryAt key)) :=
  optional_follows Check.number_none (toNumber_follows key)

theorem kind_follows {expected : ValueKind}
    (converts : ∀ value, Follows (convert key value) [.kind key expected (some value)] (Means value)) :
    Follows (optional members key default convert) [.kind key expected ((obj members).entryAt key)]
      (Supplies Means default ((obj members).entryAt key)) :=
  @optional_follows _ _ _ _ _ _ ([.kind key expected ·]) Check.kind_none converts

/-- A size that is not given is not checked. -/
theorem sizeChecks_none {entry : Option Json} (nothing : unlessNull entry = none)
    (given : Supplies (IsOptional IsNumber) none entry none) : ∀ check ∈ sizeChecks key entry, check.holds := by
  rw [sizeChecks, nothing]
  refine Check.kept_cons Check.number_none (Check.kept_cons ?_ nofun)
  exact Check.limit_supplied (functional_number.optional nofun) given (by rintro _ ⟨⟩)

theorem size_follows (members : List (Text × Json)) (key : String) :
    Follows (SvgOptions.size members key) (sizeChecks key ((obj members).entryAt key))
      (Supplies (IsOptional IsNumber) none ((obj members).entryAt key)) := by
  unfold SvgOptions.size
  change Follows _ (sizeChecks key (member? members key)) (Supplies (IsOptional IsNumber) none (member? members key))
  split
  · rename_i absent
    rw [absent]
    exact .of_kept (sizeChecks_none rfl .absent) .absent
  · rename_i empty
    rw [empty]
    exact .of_kept (sizeChecks_none rfl (.present .null)) (.present .null)
  · rename_i value notNull present
    rw [present, sizeChecks, unlessNull_some notNull]
    refine .bind (toNumber_follows key value) fun x means => ?_
    have given : Supplies (IsOptional IsNumber) none (some value) (some x) := .present (.some means)
    refine .bind (require_follows _ (functional_number.optional nofun) given ?_) fun _ _ => .of_kept nofun given
    exact ⟨fun positive y same => Option.some.inj same ▸ positive, fun positive => positive x rfl⟩

theorem paint_follows (members : List (Text × Json)) (key : String) :
    Follows (paint members key) [.kind key .string (unlessNull ((obj members).entryAt key))]
      (Supplies (IsOptional IsText) none ((obj members).entryAt key)) := by
  unfold paint
  change Follows _ [.kind key .string (unlessNull (member? members key))]
    (Supplies (IsOptional IsText) none (member? members key))
  split
  · rename_i absent
    rw [absent]
    exact .of_kept Check.kind_none .absent
  · rename_i empty
    rw [empty]
    exact .of_kept Check.kind_none (.present .null)
  · rename_i value notNull present
    rw [present, unlessNull_some notNull]
    exact (toText_follows key value).map fun _ means => .present (.some means)

theorem styleText_follows (members : List (Text × Json)) (key : String) (default : Text) :
    Follows (styleText members key default) [.kind ("style." ++ key) .string ((obj members).entryAt key)]
      (Supplies IsText default ((obj members).entryAt key)) := by
  unfold styleText
  change Follows _ [.kind ("style." ++ key) .string (member? members key)]
    (Supplies IsText default (member? members key))
  cases member? members key with
  | none => exact .of_kept Check.kind_none .absent
  | some value => exact (toText_follows _ value).mono fun _ means => .present means

theorem readStyle_follows (value : Json) : Follows (readStyle value) (styleChecks value) (DescribesStyle value) := by
  refine .bind (toMembers_follows "style" value) fun members object => ?_
  subst object
  refine .bind (checkKeys_follows "style" styleKeys members) fun _ known => ?_
  refine .bind (styleText_follows members "stroke" _) fun color colorGiven => ?_
  refine .bind (styleText_follows members "stroke_linecap" _) fun linecap linecapGiven => ?_
  refine .bind (styleText_follows members "stroke_linejoin" _) fun linejoin linejoinGiven => ?_
  exact .of_kept nofun ⟨⟨members, rfl⟩, known, colorGiven, linecapGiven, linejoinGiven⟩

theorem ofJson_follows (value : Json) : Follows (ofJson value) (checks value) (Describes value) := by
  refine .bind (toMembers_follows "options" value) fun members object => ?_
  subst object
  refine .bind (checkKeys_follows "option" keys members) fun _ known => ?_
  refine .bind (number_follows members "margin" _) fun margin marginGiven => ?_
  refine .bind (require_follows _ functional_number marginGiven .rfl) fun _ _ => ?_
  refine .bind (kind_follows (toInteger_follows "precision")) fun precision precisionGiven => ?_
  refine .bind (require_follows _ functional_integer precisionGiven .rfl) fun _ _ => ?_
  refine .bind (kind_follows (toTruth_follows "flip_y")) fun flipY flipYGiven => ?_
  refine .bind (number_follows members "rotate" _) fun rotation rotationGiven => ?_
  refine .bind (size_follows members "width") fun width widthGiven => ?_
  refine .bind (size_follows members "height") fun height heightGiven => ?_
  refine .bind (paint_follows members "background") fun background backgroundGiven => ?_
  refine .bind (number_follows members "depth_fade" _) fun fade fadeGiven => ?_
  refine .bind (require_follows _ functional_number fadeGiven .rfl) fun _ _ => ?_
  refine .bind (readStyle_follows _) fun style described => ?_
  exact .of_kept nofun ⟨⟨members, rfl⟩, known, marginGiven, precisionGiven, flipYGiven, rotationGiven, widthGiven,
    heightGiven, backgroundGiven, fadeGiven, described⟩

/-! ## Options that are described -/

/-- Two options agree wherever they are supplied alike. -/
structure AgreeWhere (value other : Json) (options options' : SvgOptions) : Prop where
  margin : value.entryAt "margin" = other.entryAt "margin" → options.margin = options'.margin
  precision : value.entryAt "precision" = other.entryAt "precision" → options.precision = options'.precision
  flipY : value.entryAt "flip_y" = other.entryAt "flip_y" → options.flipY = options'.flipY
  rotation : value.entryAt "rotate" = other.entryAt "rotate" → options.rotation = options'.rotation
  width : value.entryAt "width" = other.entryAt "width" → options.width = options'.width
  height : value.entryAt "height" = other.entryAt "height" → options.height = options'.height
  background : value.entryAt "background" = other.entryAt "background" → options.background = options'.background
  fade : value.entryAt "depth_fade" = other.entryAt "depth_fade" → options.fade = options'.fade
  color : (styleEntry value.entryAt).entryAt "stroke" = (styleEntry other.entryAt).entryAt "stroke" →
    options.style.color = options'.style.color
  linecap : (styleEntry value.entryAt).entryAt "stroke_linecap" = (styleEntry other.entryAt).entryAt "stroke_linecap" →
    options.style.linecap = options'.style.linecap
  linejoin :
    (styleEntry value.entryAt).entryAt "stroke_linejoin" = (styleEntry other.entryAt).entryAt "stroke_linejoin" →
      options.style.linejoin = options'.style.linejoin

variable {value other : Json} {options options' : SvgOptions}

theorem Describes.agree (one : Describes value options) (another : Describes other options') :
    AgreeWhere value other options options' where
  margin := one.margin.agree functional_number another.margin
  precision := one.precision.agree functional_integer another.precision
  flipY := one.flipY.agree functional_truth another.flipY
  rotation := one.rotation.agree functional_number another.rotation
  width := one.width.agree (functional_number.optional nofun) another.width
  height := one.height.agree (functional_number.optional nofun) another.height
  background := one.background.agree (functional_text.optional nofun) another.background
  fade := one.fade.agree functional_number another.fade
  color := one.style.color.agree functional_text another.style.color
  linecap := one.style.linecap.agree functional_text another.style.linecap
  linejoin := one.style.linejoin.agree functional_text another.style.linejoin

attribute [ext] StrokeStyle SvgOptions

theorem AgreeWhere.eq (agree : AgreeWhere value value options options') : options = options' :=
  SvgOptions.ext (agree.margin rfl) (agree.precision rfl) (agree.flipY rfl) (agree.rotation rfl) (agree.width rfl)
    (agree.height rfl) (agree.background rfl) (agree.fade rfl)
    (StrokeStyle.ext (agree.color rfl) (agree.linecap rfl) (agree.linejoin rfl))

theorem size_kept {entry : Option Json} {size : Option Float} (given : Supplies (IsOptional IsNumber) none entry size)
    (positive : ∀ x, size = some x → 0 < x) : ∀ check ∈ sizeChecks key entry, check.holds := by
  have limited : ∀ check ∈ [Check.limit (IsOptional IsNumber) none entry (fun size => ∀ x, size = some x → 0 < x)
      (.notPositive key)], check.holds :=
    Check.limit_supplied (functional_number.optional nofun) given positive
  refine Check.kept_cons ?_ (Check.kept_cons limited nofun)
  cases given with
  | absent => exact Check.number_none
  | present means =>
    cases means with
    | null => exact Check.number_none
    | some means =>
      rw [unlessNull_some (by rintro rfl; cases means)]
      exact Check.number_some means

theorem paint_kept {entry : Option Json} {paint : Option Text}
    (given : Supplies (IsOptional IsText) none entry paint) :
    ∀ check ∈ [Check.kind key .string (unlessNull entry)], check.holds := by
  cases given with
  | absent => exact Check.kind_none
  | present means =>
    cases means with
    | null => exact Check.kind_none
    | some means =>
      cases means
      exact Check.kind_some (.string _)

theorem style_kept {style : StrokeStyle} (described : DescribesStyle value style) :
    ∀ check ∈ styleChecks value, check.holds := by
  obtain ⟨members, rfl⟩ := described.object
  refine Check.kept_cons (Check.kind_some (.object members)) ?_
  refine Check.kept_cons (List.forall_mem_singleton.mpr described.known) ?_
  refine Check.kept_cons (Check.kind_supplied (fun _ _ ⟨_⟩ => .string _) described.color) ?_
  refine Check.kept_cons (Check.kind_supplied (fun _ _ ⟨_⟩ => .string _) described.linecap) ?_
  refine Check.kept_cons (Check.kind_supplied (fun _ _ ⟨_⟩ => .string _) described.linejoin) ?_
  exact nofun

theorem Describes.kept (described : Describes value options) (accepted : options.Accepted) :
    ∀ check ∈ checks value, check.holds := by
  obtain ⟨members, same⟩ := described.object
  refine Check.kept_cons (same ▸ Check.kind_some (.object members)) ?_
  refine Check.kept_cons (List.forall_mem_singleton.mpr described.known) ?_
  refine Check.kept_cons (Check.number_supplied described.margin) ?_
  refine Check.kept_cons (Check.limit_supplied functional_number described.margin accepted.margin) ?_
  refine Check.kept_cons (Check.kind_supplied (fun _ _ ⟨_⟩ => .integer _) described.precision) ?_
  refine Check.kept_cons (Check.limit_supplied functional_integer described.precision accepted.precision) ?_
  refine Check.kept_cons (Check.kind_supplied (fun _ _ ⟨_⟩ => .boolean _) described.flipY) ?_
  refine Check.kept_cons (Check.number_supplied described.rotation) ?_
  refine Check.kept_cons (size_kept described.width accepted.width) ?_
  refine Check.kept_cons (size_kept described.height accepted.height) ?_
  refine Check.kept_cons (paint_kept described.background) ?_
  refine Check.kept_cons (Check.number_supplied described.fade) ?_
  refine Check.kept_cons (Check.limit_supplied functional_number described.fade accepted.fade) ?_
  exact Check.kept_cons (style_kept described.style) nofun

/-- A value is accepted just if it stands for options that keep all limits. -/
theorem ofJson_eq_ok : ofJson value = .ok options ↔ Describes value options ∧ options.Accepted := by
  have follows := ofJson_follows value
  refine ⟨fun read => ⟨(follows.ok options read).2, accepted_ofJson read⟩, fun ⟨described, accepted⟩ => ?_⟩
  obtain ⟨options', read⟩ := follows.succeeds_iff.mpr (described.kept accepted)
  rw [read, ((follows.ok options' read).2.agree described).eq]

theorem ofJson_eq_error {fault : Fault} : ofJson value = .error fault ↔ FirstFault (checks value) fault :=
  (ofJson_follows value).fails_iff

/-! ## Order and writing -/

theorem Describes.of_entries (described : Describes value options) (object : ∃ members, other = .obj members)
    (same : other.entryAt = value.entryAt) : Describes other options where
  object := object
  known := same ▸ described.known
  margin := same ▸ described.margin
  precision := same ▸ described.precision
  flipY := same ▸ described.flipY
  rotation := same ▸ described.rotation
  width := same ▸ described.width
  height := same ▸ described.height
  background := same ▸ described.background
  fade := same ▸ described.fade
  style := same ▸ described.style

/-- It does not matter in which order an object lists its members. -/
theorem ofJson_of_perm {members reordered : List (Text × Json)} (distinct : (members.map Prod.fst).Nodup)
    (same : members.Perm reordered) : ofJson (.obj reordered) = ofJson (.obj members) := by
  have entries := entryAt_of_perm distinct same
  cases read : ofJson (.obj members) with
  | ok options =>
    obtain ⟨described, accepted⟩ := ofJson_eq_ok.mp read
    exact ofJson_eq_ok.mpr ⟨described.of_entries ⟨reordered, rfl⟩ entries, accepted⟩
  | error fault =>
    have first := ofJson_eq_error.mp read
    rw [ofJson_eq_error, checks, entries]
    -- Both are objects, so the fault is one of their entries.
    cases first with
    | here broken _ => exact absurd (Check.kind_some (.object members) _ List.mem_cons_self) broken
    | later _ first => exact .later (Check.kind_some (.object reordered) _ List.mem_cons_self) first

/-- An object with all the options. -/
def toJson (options : SvgOptions) : Json := .obj
  [("margin", .double options.margin), ("precision", .int options.precision), ("flip_y", .bool options.flipY),
    ("rotate", .double options.rotation), ("width", options.width.elim .null .double),
    ("height", options.height.elim .null .double), ("background", options.background.elim .null .str),
    ("depth_fade", .double options.fade),
    ("style", .obj [("stroke", .str options.style.color), ("stroke_linecap", .str options.style.linecap),
      ("stroke_linejoin", .str options.style.linejoin)])]

theorem supplies_elim {entry : Option α} {write : α → Json} (writes : ∀ x, Means (write x) x) :
    Supplies (IsOptional Means) none (some (entry.elim .null write)) entry := by
  cases entry with
  | none => exact .present .null
  | some x => exact .present (.some (writes x))

theorem describes_toJson (options : SvgOptions) : Describes options.toJson options where
  object := ⟨_, rfl⟩
  known _ there := entryAt_ne_none.mp there
  margin := .present (.double _)
  precision := .present (.int _)
  flipY := .present (.bool _)
  rotation := .present (.double _)
  width := supplies_elim .double
  height := supplies_elim .double
  background := supplies_elim .str
  fade := .present (.double _)
  style := {
    object := ⟨_, rfl⟩
    known := fun _ there => entryAt_ne_none.mp there
    color := .present (.str _)
    linecap := .present (.str _)
    linejoin := .present (.str _) }

/-! ## The options a value stands for -/

/-- A value is accepted just if it is an object with known keys only whose entries are of the right
    kinds and within their limits, and then each option is what its entry stands for, or the default:
    the order of the members does not matter, nor what else is there. Of any other value the first
    check that fails is reported. Options that have been read are read again from their object. -/
theorem ofJson_domain (value : Json) :
    (∀ options, ofJson value = .ok options ↔ Describes value options ∧ options.Accepted) ∧
      (∀ fault, ofJson value = .error fault ↔ FirstFault (checks value) fault) ∧
      (∀ members reordered, value = .obj members → (members.map Prod.fst).Nodup → members.Perm reordered →
        ofJson (.obj reordered) = ofJson value) ∧
      (∀ options other options', ofJson value = .ok options → ofJson other = .ok options' →
        AgreeWhere value other options options') ∧
      ∀ options, ofJson value = .ok options → ofJson options.toJson = .ok options := by
  refine ⟨fun options => ofJson_eq_ok, fun fault => ofJson_eq_error, ?_, ?_, ?_⟩
  · rintro members reordered rfl distinct same
    exact ofJson_of_perm distinct same
  · intro options other options' read read'
    exact (ofJson_eq_ok.mp read).1.agree (ofJson_eq_ok.mp read').1
  · intro options read
    exact ofJson_eq_ok.mpr ⟨describes_toJson options, accepted_ofJson read⟩

/-- An object with a width and without a background is accepted in either order; one whose margin is
    no number is refused, before its height is looked at. -/
theorem wide_domain :
    Describes (.obj [("width", .int 20), ("background", .null)]) { width := some 20 } ∧
      FirstFault (checks (.obj [("height", .bool true), ("margin", .double Double.notANumber)]))
        (.config (.negative "margin")) ∧
      ofJson (.obj [("background", .null), ("width", .int 20)]) =
        ofJson (.obj [("width", .int 20), ("background", .null)]) ∧
      AgreeWhere (.obj [("width", .int 20), ("background", .null)]) (.obj []) { width := some 20 } {} ∧
      ofJson (toJson { width := some 20 }) = .ok { width := some 20 } := by
  have read : ofJson (.obj [("width", .int 20), ("background", .null)]) = .ok { width := some 20 } := rfl
  have refused : ofJson (.obj [("height", .bool true), ("margin", .double Double.notANumber)]) =
    .error (.config (.negative "margin")) := rfl
  obtain ⟨accepts, -, order, agree, again⟩ := ofJson_domain (.obj [("width", .int 20), ("background", .null)])
  obtain ⟨-, reports, -⟩ := ofJson_domain (.obj [("height", .bool true), ("margin", .double Double.notANumber)])
  exact ⟨((accepts _).mp read).1, (reports _).mp refused,
    order _ _ rfl (by decide) (List.Perm.swap _ _ _), agree _ (.obj []) {} read rfl, again _ read⟩

end SvgOptions

end PlantDrawing
