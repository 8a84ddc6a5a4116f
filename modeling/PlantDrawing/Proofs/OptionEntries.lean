import Mathlib.Data.List.Sort
import PlantDrawing.OptionsObject
import PlantDrawing.Proofs.Checks
import PlantDrawing.Proofs.TextOrder
import PlantDrawing.Proofs.WholeNumbers

/-!
# Entries of a JSON object

What an object has under a key, and what that stands for: a number, a string or a truth value,
or the default if there is nothing (`Json.Supplies`). It depends on the entry alone, and not on
the order in which an object lists its members (`Json.entryAt_of_perm`). The conversions follow
the checks that an entry is of the right kind (`Check.kind`) and no number that is too large
(`Check.number`).
-/
namespace PlantDrawing

/-! ## Entries -/

namespace Json

/-- What an object has under a key. -/
def entryAt : Json → Text → Option Json
  | obj members, key => member? members key
  | _, _ => none

/-- What an entry that may be null holds if it is not. -/
def unlessNull : Option Json → Option Json
  | some null => none
  | entry => entry

/-- The values of each kind. Truth values are no numbers. -/
inductive HasKind : ValueKind → Json → Prop
  | whole (n : Int) : HasKind .number (int n)
  | double (x : Float) : HasKind .number (double x)
  | integer (n : Int) : HasKind .integer (int n)
  | string (text : Text) : HasKind .string (str text)
  | boolean (b : Bool) : HasKind .boolean (bool b)
  | object (members : List (Text × Json)) : HasKind .object (obj members)

/-- The double that a number stands for. A whole number must not be too large for one. -/
inductive IsNumber : Json → Float → Prop
  | int {n : Int} (inRange : Double.InRange n) : IsNumber (int n) (Float.ofInt n)
  | double (x : Float) : IsNumber (double x) x

/-- The whole number that a value is. -/
inductive IsInteger : Json → Int → Prop
  | int (n : Int) : IsInteger (int n) n

/-- The text that a value is. -/
inductive IsText : Json → Text → Prop
  | str (text : Text) : IsText (str text) text

/-- The truth value that a value is. -/
inductive IsTruth : Json → Bool → Prop
  | bool (b : Bool) : IsTruth (bool b) b

/-- What a value stands for that may also be null. -/
inductive IsOptional {α : Type} (Means : Json → α → Prop) : Json → Option α → Prop
  | null : IsOptional Means null none
  | some {value : Json} {x : α} (means : Means value x) : IsOptional Means value (some x)

/-- An entry supplies what its value stands for; without it there is the default. -/
inductive Supplies {α : Type} (Means : Json → α → Prop) (default : α) : Option Json → α → Prop
  | absent : Supplies Means default none default
  | present {value : Json} {x : α} (means : Means value x) : Supplies Means default (some value) x

/-- A value stands for one thing at most. -/
def Functional {α : Type} (Means : Json → α → Prop) : Prop :=
  ∀ value x y, Means value x → Means value y → x = y

variable {α : Type} {Means : Json → α → Prop} {default x y : α} {entry other : Option Json}
  {members reordered : List (Text × Json)} {key : Text}

theorem functional_number : Functional IsNumber := by
  rintro _ _ _ (_ | _) means
  · cases means
    rfl
  · cases means
    rfl

theorem functional_integer : Functional IsInteger := by
  rintro _ _ _ ⟨⟩ ⟨⟩
  rfl

theorem functional_text : Functional IsText := by
  rintro _ _ _ ⟨⟩ ⟨⟩
  rfl

theorem functional_truth : Functional IsTruth := by
  rintro _ _ _ ⟨⟩ ⟨⟩
  rfl

theorem unlessNull_some {value : Json} (notNull : value ≠ null) : unlessNull (some value) = some value := by
  cases value with
  | null => exact absurd rfl notNull
  | _ => rfl

theorem Functional.optional (functional : Functional Means) (noNull : ∀ x, ¬Means null x) :
    Functional (IsOptional Means) := by
  rintro _ _ _ (_ | means) (_ | means')
  · rfl
  · exact absurd means' (noNull _)
  · exact absurd means (noNull _)
  · rw [functional _ _ _ means means']

theorem Supplies.unique (functional : Functional Means) (one : Supplies Means default entry x)
    (another : Supplies Means default entry y) : x = y := by
  cases one with
  | absent =>
    cases another with
    | absent => rfl
  | present means =>
    cases another with
    | present means' => exact functional _ _ _ means means'

theorem Supplies.agree (functional : Functional Means) (one : Supplies Means default entry x)
    (another : Supplies Means default other y) (same : entry = other) : x = y :=
  (same ▸ one).unique functional another

theorem entryAt_ne_none : (obj members).entryAt key ≠ none ↔ key ∈ members.map Prod.fst := by
  change members.lookup key ≠ none ↔ _
  rw [← Option.isSome_iff_ne_none, List.lookup_isSome_iff, List.mem_map]
  exact exists_congr fun member => and_congr_right fun _ => by rw [beq_iff_eq, eq_comm]

theorem lookup_eq_some_iff_mem {value : Json} (distinct : (members.map Prod.fst).Nodup) :
    members.lookup key = some value ↔ (key, value) ∈ members := by
  induction members with
  | nil => exact iff_of_false nofun List.not_mem_nil
  | cons first rest ih =>
    obtain ⟨fresh, distinct⟩ := List.nodup_cons.mp distinct
    rw [List.lookup_cons, List.mem_cons]
    by_cases same : key = first.1
    · have absent : (key, value) ∉ rest := fun member => fresh (same ▸ List.mem_map_of_mem member)
      rw [beq_iff_eq.mpr same, or_iff_left absent, Option.some.injEq, Prod.ext_iff, and_iff_right same, eq_comm]
    · rw [beq_eq_false_iff_ne.mpr same, ih distinct, or_iff_right fun here => same (congrArg Prod.fst here)]

/-- The order of the members does not matter. -/
theorem entryAt_of_perm (distinct : (members.map Prod.fst).Nodup) (same : members.Perm reordered) :
    (obj reordered).entryAt = (obj members).entryAt := by
  funext key
  refine Option.ext fun value => ?_
  change reordered.lookup key = some value ↔ members.lookup key = some value
  rw [lookup_eq_some_iff_mem distinct, lookup_eq_some_iff_mem ((same.map Prod.fst).nodup_iff.mp distinct), same.mem_iff]

end Json

/-! ## Checks of entries -/

namespace Check

open Json (HasKind Supplies)

/-- An entry is of the kind that a setting asks for, if there is one. -/
def kind (setting : String) (expected : ValueKind) (entry : Option Json) : Check :=
  .plain (∀ value, entry = some value → HasKind expected value) (.config (.wrongKind setting expected))

/-- An entry is no whole number that is too large for a double. -/
def inRange (entry : Option Json) : Check :=
  .plain (∀ n, entry = some (.int n) → Double.InRange n) (.arithmetic .overflow)

/-- An entry is a number, if there is one. -/
def number (setting : String) (entry : Option Json) : List Check := [kind setting .number entry, inRange entry]

/-- What an entry supplies, or the default, keeps a limit. -/
def limit {α : Type} (Means : Json → α → Prop) (default : α) (entry : Option Json) (within : α → Prop)
    (fault : ConfigFault) : Check :=
  .plain (∀ x, Supplies Means default entry x → within x) (.config fault)

/-- There are no entries but those with known keys; all other keys are reported in increasing order. -/
def knownKeys (place : String) (known : List Text) (entry : Text → Option Json) : Check where
  holds := ∀ key, entry key ≠ none → key ∈ known
  reports fault := ∃ unknown : List Text, fault = .config (.unknownKeys place unknown) ∧ unknown.Pairwise (· < ·) ∧
    ∀ key, key ∈ unknown ↔ entry key ≠ none ∧ key ∉ known
  unique := by
    rintro _ _ ⟨unknown, rfl, sorted, named⟩ ⟨unknown', rfl, sorted', named'⟩
    rw [sorted.eq_of_mem_iff sorted' fun key => (named key).trans (named' key).symm]

variable {α : Type} {setting : String} {expected : ValueKind} {value : Json} {entry : Option Json} {default x : α}
  {Means : Json → α → Prop} {within : α → Prop} {fault : ConfigFault}

theorem kind_none : ∀ check ∈ [kind setting expected none], check.holds :=
  List.forall_mem_singleton.mpr nofun

theorem kind_some (fits : HasKind expected value) : ∀ check ∈ [kind setting expected (some value)], check.holds := by
  refine List.forall_mem_singleton.mpr ?_
  rintro _ ⟨⟩
  exact fits

theorem number_none : ∀ check ∈ number setting none, check.holds :=
  List.forall_mem_cons.mpr ⟨nofun, List.forall_mem_singleton.mpr nofun⟩

theorem number_some {x : Float} (means : value.IsNumber x) : ∀ check ∈ number setting (some value), check.holds := by
  cases means with
  | int inRange =>
    refine List.forall_mem_append.mpr ⟨kind_some (.whole _), List.forall_mem_singleton.mpr ?_⟩
    rintro _ ⟨⟩
    exact inRange
  | double x =>
    refine List.forall_mem_append.mpr ⟨kind_some (.double x), List.forall_mem_singleton.mpr ?_⟩
    rintro _ ⟨⟩

theorem kind_supplied (fits : ∀ value x, Means value x → HasKind expected value)
    (given : Supplies Means default entry x) : ∀ check ∈ [kind setting expected entry], check.holds := by
  cases given with
  | absent => exact kind_none
  | present means => exact kind_some (fits _ _ means)

theorem number_supplied {default x : Float} (given : Supplies Json.IsNumber default entry x) :
    ∀ check ∈ number setting entry, check.holds := by
  cases given with
  | absent => exact number_none
  | present means => exact number_some means

theorem limit_supplied (functional : Json.Functional Means) (given : Supplies Means default entry x) (kept : within x) :
    ∀ check ∈ [limit Means default entry within fault], check.holds :=
  List.forall_mem_singleton.mpr fun _ other => other.unique functional given ▸ kept

end Check

/-! ## Conversions -/

namespace Json

variable {α : Type} {setting : String} {expected : ValueKind} {value : Json} {result : α → Prop}

theorem refuse_follows (other : ¬HasKind expected value) (more : List Check) :
    Follows (refuse setting expected) (.kind setting expected (some value) :: more) result := by
  refine ⟨nofun, ?_⟩
  rintro _ ⟨⟩
  exact .here (fun kept => other (kept value rfl)) rfl

theorem toNumber_follows (setting : String) (value : Json) :
    Follows (value.toNumber setting) (Check.number setting (some value)) (IsNumber value) := by
  cases value with
  | int n =>
    change Follows ((Double.ofInt n).mapError .arithmetic) _ _
    cases rounded : Double.ofInt n with
    | ok x =>
      obtain ⟨inRange, rfl⟩ := Double.ofInt_eq_ok.mp rounded
      exact .of_kept (Check.number_some (.int inRange)) (.int inRange)
    | error cause =>
      obtain ⟨tooLarge, rfl⟩ := Double.ofInt_eq_error.mp rounded
      refine ⟨nofun, ?_⟩
      rintro _ ⟨⟩
      exact .later (Check.kind_some (.whole n) _ List.mem_cons_self) (.here (fun kept => tooLarge (kept n rfl)) rfl)
  | double x => exact .of_kept (Check.number_some (.double x)) (.double x)
  | _ => exact refuse_follows (by rintro ⟨⟩) _

theorem toInteger_follows (setting : String) (value : Json) :
    Follows (value.toInteger setting) [.kind setting .integer (some value)] (IsInteger value) := by
  cases value with
  | int n => exact .of_kept (Check.kind_some (.integer n)) (.int n)
  | _ => exact refuse_follows (by rintro ⟨⟩) []

theorem toText_follows (setting : String) (value : Json) :
    Follows (value.toText setting) [.kind setting .string (some value)] (IsText value) := by
  cases value with
  | str text => exact .of_kept (Check.kind_some (.string text)) (.str text)
  | _ => exact refuse_follows (by rintro ⟨⟩) []

theorem toTruth_follows (setting : String) (value : Json) :
    Follows (value.toTruth setting) [.kind setting .boolean (some value)] (IsTruth value) := by
  cases value with
  | bool b => exact .of_kept (Check.kind_some (.boolean b)) (.bool b)
  | _ => exact refuse_follows (by rintro ⟨⟩) []

theorem toMembers_follows (setting : String) (value : Json) :
    Follows (value.toMembers setting) [.kind setting .object (some value)] fun members => value = obj members := by
  cases value with
  | obj members => exact .of_kept (Check.kind_some (.object members)) rfl
  | _ => exact refuse_follows (by rintro ⟨⟩) []

end Json

end PlantDrawing
