import PlantDrawing.Proofs.MarkupPieces

/-!
# Reading a document

A reader that takes a document piece by piece and keeps a stack of the elements that
are open. It is strict: a closing tag must name the innermost open element, text and
elements do not stand side by side, and there is one root. What it reads in the text of
a document is the tree that was written (`read_document`).
-/
namespace PlantDrawing.Markup

/-- An element that is open, with what is read of its inside. -/
structure Frame where
  tag : String
  attributes : List Attribute
  text : List Char
  children : List Element

/-- The innermost element that is open and those around it, from the inside out. The
    outermost stands for the document. -/
structure Place where
  inner : Frame
  outer : List Frame

/-- A tag of which the name and some attributes are read. -/
structure Tag where
  name : String
  attributes : List Attribute

/-- Where the reader is: between tags, behind the bracket that opens one, behind the
    name or a value in one, or behind the quote that opens a value. -/
inductive ReaderState where
  | between (place : Place)
  | opening (place : Place)
  | inTag (place : Place) (tag : Tag)
  | inValue (place : Place) (tag : Tag) (name : String)

/-- Whether a character is one that a document may hold between its tags. -/
def isBlank (c : Char) : Bool := c = ' ' || c = '\n'

/-- The element that a frame becomes. One without attributes and children is an element
    with a text; beside children there is only blank text. -/
def Frame.element? (frame : Frame) : Option Element :=
  if frame.attributes = [] ∧ frame.children.isEmpty then
    some (.text frame.tag (String.ofList (unescape frame.text)))
  else if frame.text.all isBlank then some (.group frame.tag frame.attributes frame.children)
  else none

namespace Place

def addText (place : Place) (text : List Char) : Place :=
  { place with inner := { place.inner with text := place.inner.text ++ text } }

def addChild (place : Place) (child : Element) : Place :=
  { place with inner := { place.inner with children := place.inner.children ++ [child] } }

/-- The place in a new element. -/
def enter (place : Place) (tag : Tag) : Place :=
  ⟨⟨tag.name, tag.attributes, [], []⟩, place.inner :: place.outer⟩

/-- The place behind the innermost element, which has to have a given name. -/
def leave (place : Place) (name : List Char) : Option Place :=
  match place.outer with
  | [] => none
  | frame :: outer =>
    if place.inner.tag.toList = name then place.inner.element?.map (addChild ⟨frame, outer⟩) else none

end Place

/-- A name at the beginning of a text, and what follows it. -/
def takeName (text : List Char) : Option (String × List Char) :=
  if text.takeWhile isNameCharacter = [] then none
  else some (String.ofList (text.takeWhile isNameCharacter), text.dropWhile isNameCharacter)

/-- The state behind a piece that begins behind the name or a value of a tag. -/
def stepInTag (place : Place) (tag : Tag) (piece : Piece) : Option ReaderState :=
  if piece.delimiter = '>' then
    if piece.content = [] then some (.between (place.enter tag))
    else if piece.content = [' ', '/'] then
      some (.between (place.addChild (.leaf tag.name tag.attributes)))
    else none
  else if piece.delimiter = '"' then
    match piece.content with
    | ' ' :: content =>
      match takeName content with
      | some (name, ['=']) => some (.inValue place tag name)
      | _ => none
    | _ => none
  else none

/-- The state behind a piece. -/
def ReaderState.step : ReaderState → Piece → Option ReaderState
  | .between place, piece =>
    if piece.delimiter = '<' then some (.opening (place.addText piece.content)) else none
  | .opening place, piece =>
    match piece.content with
    | '/' :: name => if piece.delimiter = '>' then (place.leave name).map .between else none
    | content =>
      match takeName content with
      | some (name, rest) => stepInTag place ⟨name, []⟩ ⟨rest, piece.delimiter⟩
      | none => none
  | .inTag place tag, piece => stepInTag place tag piece
  | .inValue place tag name, piece =>
    if piece.delimiter = '"' then
      let value := String.ofList (unescape piece.content)
      some (.inTag place { tag with attributes := tag.attributes ++ [⟨name, value⟩] })
    else none

/-- The state behind pieces one after another. -/
def ReaderState.run (state : ReaderState) (pieces : List Piece) : Option ReaderState :=
  pieces.foldlM step state

/-- The place before a root. -/
def Place.start : Place := ⟨⟨"", [], [], []⟩, []⟩

/-- The root of a document that is read up to the end of its last tag. -/
def ReaderState.root? : ReaderState → Option Element
  | .between ⟨document, []⟩ =>
    match document.children with
    | [root] => if document.text.all isBlank then some root else none
    | _ => none
  | _ => none

/-- The tree of a document: behind the line that opens it there is one root and nothing
    else but blanks. -/
def read (text : String) : Option Element :=
  if declaration.toList.isPrefixOf text.toList then
    let (pieces, last) := cut (text.toList.drop declaration.toList.length)
    if last.all isBlank then (ReaderState.between .start).run pieces >>= ReaderState.root? else none
  else none

/-! ## Reading what is written -/

namespace ReaderState

theorem run_append (state : ReaderState) (pieces others : List Piece) :
    state.run (pieces ++ others) = state.run pieces >>= fun next => next.run others :=
  List.foldlM_append

@[simp] theorem run_nil (state : ReaderState) : state.run [] = some state := rfl

theorem run_cons (state : ReaderState) (piece : Piece) (pieces : List Piece) :
    state.run (piece :: pieces) = state.step piece >>= fun next => next.run pieces :=
  List.foldlM_cons

end ReaderState

section Tags

variable {name : String} {rest : List Char}

theorem takeName_append (named : IsName name) (ended : ∀ c ∈ rest.head?, isNameCharacter c = false) :
    takeName (name.toList ++ rest) = some (name, rest) := by
  have characters : ∀ c ∈ name.toList, isNameCharacter c := List.all_eq_true.mp named.2
  have whole : (name.toList ++ rest).takeWhile isNameCharacter = name.toList := by
    rw [List.takeWhile_append_of_pos characters]
    cases rest with
    | nil => simp
    | cons c rest => simp [ended c rfl]
  have left : (name.toList ++ rest).dropWhile isNameCharacter = rest := by
    rw [List.dropWhile_append_of_pos characters]
    cases rest with
    | nil => rfl
    | cons c rest => simp [ended c rfl]
  have inhabited : name.toList ≠ [] := by simpa using named.1
  rw [takeName, whole, left, if_neg inhabited, String.ofList_toList]

theorem step_opening (place : Place) (named : IsName name)
    (ended : ∀ c ∈ rest.head?, isNameCharacter c = false) (delimiter : Char) :
    (ReaderState.opening place).step ⟨name.toList ++ rest, delimiter⟩ =
      (ReaderState.inTag place ⟨name, []⟩).step ⟨rest, delimiter⟩ := by
  have taken := takeName_append named ended
  obtain ⟨inhabited, characters⟩ := named
  cases spelled : name.toList with
  | nil => exact absurd (by simpa using spelled) inhabited
  | cons c more =>
    have character : isNameCharacter c := List.all_eq_true.mp characters c (spelled ▸ List.mem_cons_self)
    have letter : c ≠ '/' := by
      rintro rfl
      exact absurd character (by decide)
    rw [spelled] at taken
    simp only [List.cons_append] at taken
    simp [ReaderState.step, letter, taken]

theorem step_attribute (place : Place) (tag : Tag) (named : IsName name) :
    (ReaderState.inTag place tag).step ⟨' ' :: name.toList ++ ['='], '"'⟩ = some (.inValue place tag name) := by
  have ended : ∀ c ∈ ['='].head?, isNameCharacter c = false := by simp [isNameCharacter]
  have taken := takeName_append named ended
  simp [ReaderState.step, stepInTag, taken]

theorem step_value (place : Place) (tag : Tag) (value : String) :
    (ReaderState.inValue place tag name).step ⟨(escape value).toList, '"'⟩ =
      some (.inTag place ⟨tag.name, tag.attributes ++ [⟨name, value⟩]⟩) := by
  simp [ReaderState.step, unescape_escape]

variable {tail : List Char} {attributes : List Attribute}

theorem run_attributes (place : Place) (tag : Tag) (named : ∀ a ∈ attributes, IsName a.name) :
    (ReaderState.inTag place tag).run ((tagParts [] tail attributes).map Part.piece) =
      stepInTag place ⟨tag.name, tag.attributes ++ attributes⟩ ⟨tail, '>'⟩ := by
  induction attributes generalizing tag with
  | nil => simp [tagParts, ReaderState.run, Part.piece, ReaderState.step]
  | cons a attributes ih =>
    obtain ⟨head, restNamed⟩ := List.forall_mem_cons.mp named
    have further := ih ⟨tag.name, tag.attributes ++ [a]⟩ restNamed
    simp only [tagParts, List.map_cons, Part.piece, List.nil_append, ReaderState.run_cons,
      step_attribute place tag head, Option.bind_eq_bind, Option.bind_some, step_value]
    simpa using further

/-- A tag is read from behind its opening bracket up to its tail. -/
theorem run_tag (place : Place) (tail : List Char) (named : IsName name)
    (attributesNamed : ∀ a ∈ attributes, IsName a.name) (ended : ∀ c ∈ tail.head?, isNameCharacter c = false) :
    (ReaderState.opening place).run ((tagParts name.toList tail attributes).map Part.piece) =
      stepInTag place ⟨name, attributes⟩ ⟨tail, '>'⟩ := by
  rw [← List.nil_append attributes, ← run_attributes place ⟨name, []⟩ attributesNamed, List.nil_append]
  cases attributes with
  | nil =>
    simp only [tagParts, List.map_cons, List.map_nil, Part.piece, ReaderState.run_cons, List.nil_append,
      step_opening place named ended]
  | cons a attributes =>
    have blank : ∀ c ∈ (' ' :: a.name.toList ++ ['=']).head?, isNameCharacter c = false := by
      simp [isNameCharacter]
    simp only [tagParts, List.map_cons, Part.piece, ReaderState.run_cons, List.nil_append,
      step_opening place named blank]

end Tags

/-! ## Elements -/

theorem lineStart_blank (level : Nat) : (lineStart level).all isBlank := by
  simp [lineStart, indentation, isBlank]

theorem Place.addText_enter (place : Place) (tag : Tag) (text : List Char) :
    (place.enter tag).addText text = ⟨⟨tag.name, tag.attributes, text, []⟩, place.inner :: place.outer⟩ := rfl

theorem stepInTag_open (place : Place) (tag : Tag) :
    stepInTag place tag ⟨[], '>'⟩ = some (.between (place.enter tag)) := rfl

theorem step_between (place : Place) (text : List Char) :
    (ReaderState.between place).step ⟨text, '<'⟩ = some (.opening (place.addText text)) := by
  simp [ReaderState.step]

theorem step_closing (place : Place) (name : List Char) :
    (ReaderState.opening place).step ⟨'/' :: name, '>'⟩ = (place.leave name).map .between := by
  simp [ReaderState.step]

/-- The inside of a frame with some blank text and children added. -/
def Frame.add (frame : Frame) (blanks : List Char) (children : List Element) : Frame :=
  ⟨frame.tag, frame.attributes, frame.text ++ blanks, frame.children ++ children⟩

/-- An element adds itself to the place it is read at, with the blanks in front of it. -/
def ReadsBack (element : Element) : Prop :=
  ∀ (level : Nat) (place : Place), (ReaderState.between place).run ((element.parts level).map Part.piece) =
    some (.between ⟨place.inner.add (lineStart level) [element], place.outer⟩)

theorem run_allParts {elements : List Element} (readsBack : ∀ element ∈ elements, ReadsBack element)
    (level : Nat) (place : Place) :
    ∃ blanks : List Char, blanks.all isBlank ∧
      (ReaderState.between place).run ((allParts level elements).map Part.piece) =
        some (.between ⟨place.inner.add blanks elements, place.outer⟩) := by
  induction elements generalizing place with
  | nil =>
    refine ⟨[], rfl, ?_⟩
    simp [allParts, ReaderState.run, Frame.add]
  | cons element rest ih =>
    obtain ⟨head, tail⟩ := List.forall_mem_cons.mp readsBack
    obtain ⟨blanks, blank, reads⟩ := ih tail ⟨place.inner.add (lineStart level) [element], place.outer⟩
    refine ⟨lineStart level ++ blanks, ?_, ?_⟩
    · rw [List.all_append, lineStart_blank, blank, Bool.and_self]
    · rw [allParts, List.map_append, ReaderState.run_append, head level place, Option.bind_eq_bind,
        Option.bind_some, reads]
      simp [Frame.add]

theorem element?_group (tag : String) {attributes : List Attribute} {children : List Element}
    {blanks : List Char} (inhabited : attributes ≠ [] ∨ children ≠ []) (blank : blanks.all isBlank) :
    (Frame.mk tag attributes blanks children).element? = some (.group tag attributes children) := by
  have grouped : ¬(attributes = [] ∧ children.isEmpty) := by
    rw [List.isEmpty_iff]
    rintro ⟨bare, childless⟩
    exact inhabited.elim (· bare) (· childless)
  rw [Frame.element?, if_neg grouped, if_pos blank]

theorem element?_text (tag content : String) :
    (Frame.mk tag [] (escape content).toList []).element? = some (.text tag content) := by
  simp [Frame.element?, unescape_escape]

theorem step_leave (place : Place) {frame : Frame} {element : Element} (closed : frame.element? = some element) :
    (ReaderState.opening ⟨frame, place.inner :: place.outer⟩).step ⟨'/' :: frame.tag.toList, '>'⟩ =
      some (.between (place.addChild element)) := by
  simp [step_closing, Place.leave, closed]

theorem Element.Proper.readsBack {element : Element} (proper : element.Proper) : ReadsBack element := by
  induction proper with
  | leaf named attributesNamed =>
    intro level place
    have tag := run_tag (place.addText (lineStart level)) [' ', '/'] named attributesNamed
      (by simp [isNameCharacter])
    rw [Element.parts, List.map_cons, ReaderState.run_cons, Part.piece, step_between, Option.bind_eq_bind,
      Option.bind_some, tag]
    rfl
  | @text tag content named =>
    intro level place
    have opens : (ReaderState.opening (place.addText (lineStart level))).step ⟨tag.toList, '>'⟩ =
        some (.between ((place.addText (lineStart level)).enter ⟨tag, []⟩)) := by
      rw [← List.append_nil tag.toList, step_opening _ named (by simp)]
      exact stepInTag_open _ _
    have closes := step_leave (place.addText (lineStart level)) (element?_text tag content)
    simp only [Element.parts, List.map_cons, List.map_nil, Part.piece, ReaderState.run_cons, step_between,
      Option.bind_eq_bind, Option.bind_some, opens, Place.addText_enter, closes, ReaderState.run_nil]
    rfl
  | @group tag attributes children named attributesNamed inhabited _ ih =>
    intro level place
    have opens := run_tag (place.addText (lineStart level)) [] named attributesNamed (by simp)
    obtain ⟨blanks, blank, inner⟩ := run_allParts ih (level + 1)
      ((place.addText (lineStart level)).enter ⟨tag, attributes⟩)
    -- The frame of the group has gathered the children and the blanks around them.
    have whole : (blanks ++ lineStart level).all isBlank := by
      rw [List.all_append, blank, lineStart_blank, Bool.and_self]
    have closes := step_leave (place.addText (lineStart level)) (element?_group tag inhabited whole)
    simp only [Element.parts, List.cons_append, List.map_cons, List.map_append, List.map_nil, Part.piece,
      ReaderState.run_cons, ReaderState.run_append, step_between, Option.bind_eq_bind, Option.bind_some, opens,
      stepInTag_open, inner]
    exact congrArg (· >>= fun next => next.run []) closes

/-- Reading the text of a document gives its tree. -/
theorem read_document {root : Element} (proper : root.Proper) : read (document root) = some root := by
  have behind : (document root).toList = declaration.toList ++ (written (root.parts 0) ++ ['\n']) := by
    rw [document_toList, declaration_toList, written_append, List.append_assoc]
  have pieces : cut (written (root.parts 0) ++ ['\n']) = ((root.parts 0).map Part.piece, ['\n']) :=
    cut_written (proper.cuttable 0) (by simp [isDelimiter])
  have reads := proper.readsBack 0 .start
  have opened : declaration.toList.isPrefixOf (document root).toList = true := by
    rw [List.isPrefixOf_iff_prefix, behind]
    exact List.prefix_append _ _
  have blank : ['\n'].all isBlank = true := rfl
  rw [read, if_pos opened, behind, List.drop_left, pieces]
  simp only [blank, if_true, reads, Option.bind_eq_bind, Option.bind_some]
  simp [ReaderState.root?, Place.start, Frame.add, lineStart, indentation, isBlank]

/-- Tags that cross make no tree. -/
example : (read (declaration ++ "\n<svg>\n  <g x=\"1\"><line /></svg>\n</g>\n")).isNone := by
  decide +kernel

end PlantDrawing.Markup
