import PlantDrawing.Markup

/-!
# Escapes read back

An escaped text holds none of the characters that begin or end some markup,
and one pass over its entities, from left to right, gives the text back.
-/
namespace PlantDrawing.Markup

/-- Whether a character begins or ends some markup. -/
def isDelimiter (c : Char) : Bool := c = '<' || c = '>' || c = '"'

/-- The text that an escaped one stands for: its entities are read in one pass from
    left to right, and what is no entity stands for itself. -/
def unescape : List Char → List Char
  | '&' :: 'a' :: 'm' :: 'p' :: ';' :: rest => '&' :: unescape rest
  | '&' :: 'l' :: 't' :: ';' :: rest => '<' :: unescape rest
  | '&' :: 'g' :: 't' :: ';' :: rest => '>' :: unescape rest
  | '&' :: 'q' :: 'u' :: 'o' :: 't' :: ';' :: rest => '"' :: unescape rest
  | c :: rest => c :: unescape rest
  | [] => []

theorem unescape_cons {c : Char} (plain : c ≠ '&') (rest : List Char) :
    unescape (c :: rest) = c :: unescape rest := by
  simp [unescape, plain]

theorem unescape_escapeCharacter (c : Char) (rest : List Char) :
    unescape (escapeCharacter c ++ rest) = c :: unescape rest := by
  fun_cases escapeCharacter c with
  | case1 | case2 | case3 | case4 => simp [unescape]
  | case5 c ampersand => exact unescape_cons ampersand rest

theorem not_delimiter_of_mem_escapeCharacter {c d : Char} (member : d ∈ escapeCharacter c) :
    isDelimiter d = false := by
  revert d
  fun_cases escapeCharacter c with
  | case1 | case2 | case3 | case4 => simp [isDelimiter]
  | case5 c _ less greater quote =>
    intro d member
    obtain rfl := List.mem_singleton.mp member
    simp only [isDelimiter, decide_eq_false less, decide_eq_false greater, decide_eq_false quote,
      Bool.or_false]

theorem escape_toList (text : String) : (escape text).toList = text.toList.flatMap escapeCharacter := by
  rw [escape, String.toList_ofList]

/-- Reading an escaped text gives the text. -/
theorem unescape_escape (text : String) : unescape (escape text).toList = text.toList := by
  rw [escape_toList]
  induction text.toList with
  | nil => rfl
  | cons c rest ih => rw [List.flatMap_cons, unescape_escapeCharacter, ih]

theorem escape_no_delimiter (text : String) : ∀ c ∈ (escape text).toList, isDelimiter c = false := by
  intro c member
  rw [escape_toList, List.mem_flatMap] at member
  obtain ⟨_, _, member⟩ := member
  exact not_delimiter_of_mem_escapeCharacter member

end PlantDrawing.Markup
