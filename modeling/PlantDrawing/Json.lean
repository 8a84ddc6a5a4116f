import PlantDrawing.Text

/-!
# JSON values

A value keeps apart whole numbers, which are exact and of any size, and numbers
with a point or an exponent, which are doubles. An object lists its members in
the order in which their keys first appeared; a later member with the same key
takes the place of the earlier one.
-/

namespace PlantDrawing

/-- A JSON value. -/
inductive Json where
  | null
  | bool (value : Bool)
  | int (value : Int)
  | double (value : Float)
  | str (value : Text)
  | arr (items : List Json)
  | obj (members : List (Text × Json))
  deriving Inhabited

namespace Json

/-- Sets a key: in its old place if it is there, else at the end. -/
def setMember (key : Text) (value : Json) : List (Text × Json) → List (Text × Json)
  | [] => [(key, value)]
  | (k, v) :: rest =>
    if k = key then (key, value) :: rest else (k, v) :: setMember key value rest

/-- The value of a key. -/
def member? (members : List (Text × Json)) (key : Text) : Option Json :=
  members.lookup key

/-- A key that has just been set has the value it was set to. -/
theorem member?_setMember_self (key : Text) (value : Json) (members : List (Text × Json)) :
    member? (setMember key value members) key = some value := by
  induction members with
  | nil => simp [setMember, member?]
  | cons head rest ih =>
    obtain ⟨k, v⟩ := head
    by_cases same : k = key
    · simp [setMember, member?, same]
    · have differs : (key == k) = false := by simpa using fun h => same h.symm
      simpa [setMember, member?, same, List.lookup_cons, differs] using ih

/-- Setting one key leaves the others as they were. -/
theorem member?_setMember_of_ne {key other : Text} (value : Json)
    (members : List (Text × Json)) (different : other ≠ key) :
    member? (setMember key value members) other = member? members other := by
  induction members with
  | nil =>
    have differs : (other == key) = false := by simpa using different
    simp [setMember, member?, List.lookup_cons, differs]
  | cons head rest ih =>
    obtain ⟨k, v⟩ := head
    by_cases same : k = key
    · have differs : (other == key) = false := by simpa using different
      simp [setMember, member?, same, List.lookup_cons, differs]
    · simp only [member?] at ih
      simp [setMember, member?, same, List.lookup_cons, ih]

end Json

end PlantDrawing
