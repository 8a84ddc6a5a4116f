import PlantDrawing.Proofs.Escapes

/-!
# Pieces of a document

A text is cut at its delimiters, each of which ends a piece. The pieces of a document
follow from its tree: every value of an attribute and every text is a piece of its own,
whatever it holds, and all other pieces are markup. So cutting the text of a document
gives the pieces of its tree (`cut_document`).
-/
namespace PlantDrawing.Markup

/-- A delimiter with the characters between the one before it and itself. -/
structure Piece where
  content : List Char
  delimiter : Char
  deriving DecidableEq, Repr

namespace Piece

def characters (piece : Piece) : List Char := piece.content ++ [piece.delimiter]

/-- The piece is one that a text can be cut into. -/
structure Cuttable (piece : Piece) : Prop where
  content : ∀ c ∈ piece.content, isDelimiter c = false
  delimiter : isDelimiter piece.delimiter

end Piece

/-- The pieces of a text of which some characters after the last delimiter are read, and
    what remains after its last delimiter. -/
def cutFrom (read : List Char) : List Char → List Piece × List Char
  | [] => ([], read)
  | c :: rest =>
    if isDelimiter c then (⟨read, c⟩ :: (cutFrom [] rest).1, (cutFrom [] rest).2)
    else cutFrom (read ++ [c]) rest

/-- A text cut at its delimiters. -/
def cut (text : List Char) : List Piece × List Char := cutFrom [] text

section Cut

variable {content rest last : List Char}

theorem cutFrom_append (plain : ∀ c ∈ content, isDelimiter c = false) (read : List Char) :
    cutFrom read (content ++ rest) = cutFrom (read ++ content) rest := by
  induction content generalizing read with
  | nil => rw [List.append_nil, List.nil_append]
  | cons c content ih =>
    obtain ⟨head, tail⟩ := List.forall_mem_cons.mp plain
    rw [List.cons_append, cutFrom, head]
    simp only [Bool.false_eq_true, if_false]
    rw [ih tail, List.append_assoc]
    rfl

theorem cut_piece {piece : Piece} (cuttable : piece.Cuttable) :
    cut (piece.characters ++ rest) = (piece :: (cut rest).1, (cut rest).2) := by
  rw [cut, Piece.characters, List.append_assoc, cutFrom_append cuttable.content, List.nil_append,
    List.singleton_append, cutFrom, if_pos cuttable.delimiter]
  rfl

theorem cut_pieces {pieces : List Piece} (cuttable : ∀ piece ∈ pieces, piece.Cuttable)
    (plain : ∀ c ∈ last, isDelimiter c = false) :
    cut (pieces.flatMap Piece.characters ++ last) = (pieces, last) := by
  induction pieces with
  | nil =>
    have all : cutFrom [] (last ++ []) = cutFrom ([] ++ last) [] := cutFrom_append plain []
    rw [List.append_nil, List.nil_append] at all
    exact all
  | cons piece pieces ih =>
    obtain ⟨head, tail⟩ := List.forall_mem_cons.mp cuttable
    rw [List.flatMap_cons, List.append_assoc, cut_piece head, ih tail]

end Cut

/-! ## Parts -/

/-- What a piece of a document is there for: to be markup, or to hold the value of an
    attribute or the text of an element. -/
inductive Part where
  | markup (characters : List Char) (delimiter : Char)
  | value (name value : String)
  | content (tag text : String)
  deriving DecidableEq, Repr

def Part.piece : Part → Piece
  | .markup characters delimiter => ⟨characters, delimiter⟩
  | .value _ text => ⟨(escape text).toList, '"'⟩
  | .content _ text => ⟨(escape text).toList, '<'⟩

/-- The characters of parts one after another. -/
def written (parts : List Part) : List Char := parts.flatMap fun part => part.piece.characters

@[simp] theorem written_nil : written [] = [] := rfl

@[simp] theorem written_cons (part : Part) (parts : List Part) :
    written (part :: parts) = part.piece.content ++ part.piece.delimiter :: written parts := by
  simp [written, Piece.characters]

@[simp] theorem written_append (parts others : List Part) :
    written (parts ++ others) = written parts ++ written others := by
  simp [written]

/-- The parts of a tag behind its opening bracket. The first of them begins with what is
    read already, and the last ends with a given tail. -/
def tagParts (read tail : List Char) : List Attribute → List Part
  | [] => [.markup (read ++ tail) '>']
  | a :: rest =>
    .markup (read ++ (' ' :: a.name.toList ++ ['='])) '"' :: .value a.name a.value :: tagParts [] tail rest

/-- The start of a new line at a nesting level. -/
def lineStart (level : Nat) : List Char := '\n' :: (indentation level).toList

mutual

/-- The parts of an element at a nesting level, from the end of the line before it. -/
def Element.parts (level : Nat) : Element → List Part
  | .leaf tag attributes => .markup (lineStart level) '<' :: tagParts tag.toList [' ', '/'] attributes
  | .text tag content =>
    [.markup (lineStart level) '<', .markup tag.toList '>', .content tag content,
      .markup ('/' :: tag.toList) '>']
  | .group tag attributes children =>
    .markup (lineStart level) '<' :: tagParts tag.toList [] attributes ++ allParts (level + 1) children ++
      [.markup (lineStart level) '<', .markup ('/' :: tag.toList) '>']

/-- The parts of several elements, one after another. -/
def allParts (level : Nat) : List Element → List Part
  | [] => []
  | element :: rest => element.parts level ++ allParts level rest

end

/-- The parts of the line that opens every document. -/
def declarationParts : List Part :=
  .markup [] '<' :: tagParts "?xml".toList ['?'] [⟨"version", "1.0"⟩, ⟨"encoding", "UTF-8"⟩]

/-! ## The text of the parts -/

theorem foldl_append_toList {α : Type} (write : α → String) (text : String) (items : List α) :
    (items.foldl (fun text item => text ++ write item) text).toList =
      text.toList ++ items.flatMap fun item => (write item).toList := by
  induction items generalizing text with
  | nil => simp
  | cons item items ih => simp [ih]

theorem attributesWritten_toList (attributes : List Attribute) :
    (attributesWritten attributes).toList = attributes.flatMap fun a => a.written.toList := by
  rw [attributesWritten, foldl_append_toList Attribute.written, String.toList_empty, List.nil_append]

theorem written_tagParts (read tail : List Char) (attributes : List Attribute) :
    written (tagParts read tail attributes) =
      read ++ (attributesWritten attributes).toList ++ tail ++ ['>'] := by
  induction attributes generalizing read with
  | nil => simp [tagParts, attributesWritten_toList, Part.piece]
  | cons a rest ih => simp [tagParts, attributesWritten_toList, Attribute.written, Part.piece, ih]

/-- The characters of lines, each on a line of its own. -/
def linesWritten (lines : Array String) : List Char :=
  lines.toList.flatMap fun line => '\n' :: line.toList

theorem linesWritten_push (lines : Array String) (line : String) :
    linesWritten (lines.push line) = linesWritten lines ++ '\n' :: line.toList := by
  simp [linesWritten]

-- By recursion on the tree, like the definition of the lines.
mutual

theorem Element.written_parts (level : Nat) (before : Array String) :
    (element : Element) → linesWritten (element.addLines level before) =
      linesWritten before ++ written (element.parts level)
  | .leaf tag attributes => by
    simp [Element.addLines, Element.parts, linesWritten_push, written_tagParts, lineStart, Part.piece]
  | .text tag content => by
    simp [Element.addLines, Element.parts, linesWritten_push, lineStart, Part.piece]
  | .group tag attributes children => by
    simp [Element.addLines, Element.parts, linesWritten_push, written_tagParts, lineStart, Part.piece,
      written_allParts (level + 1) _ children]

theorem written_allParts (level : Nat) (before : Array String) :
    (elements : List Element) → linesWritten (addAllLines level before elements) =
      linesWritten before ++ written (allParts level elements)
  | [] => by simp [addAllLines, allParts]
  | element :: rest => by
    rw [addAllLines, written_allParts level _ rest, Element.written_parts level before element, allParts,
      written_append, List.append_assoc]

end

theorem joined_lines (lines : Array String) :
    '\n' :: (lines.foldl (fun text line => text ++ line ++ "\n") "").toList = linesWritten lines ++ ['\n'] := by
  have joined := foldl_append_toList (fun line : String => line ++ "\n") "" lines.toList
  -- The line ends move from behind the lines to the front of them.
  have shift : ∀ lines : List String, '\n' :: (lines.flatMap fun line => line.toList ++ ['\n']) =
      (lines.flatMap fun line => '\n' :: line.toList) ++ ['\n'] := by
    intro lines
    induction lines with
    | nil => rfl
    | cons line lines ih => simpa using ih
  simp only [← String.append_assoc] at joined
  rw [← Array.foldl_toList, joined]
  simpa [linesWritten] using shift lines.toList

theorem declaration_toList : declaration.toList = written declarationParts := by
  decide

theorem document_toList (root : Element) :
    (document root).toList = written (declarationParts ++ root.parts 0) ++ ['\n'] := by
  have lines := joined_lines (root.addLines 0 #[declaration])
  rw [Element.written_parts] at lines
  simpa [document, linesWritten, declaration_toList] using lines

/-! ## Cutting a document -/

/-- Whether a character may stand in the name of a tag or of an attribute. -/
def isNameCharacter (c : Char) : Bool := c.isAlphanum || c = '-'

/-- The text is a name. -/
def IsName (text : String) : Prop := text ≠ "" ∧ text.toList.all isNameCharacter = true

instance (text : String) : Decidable (IsName text) := inferInstanceAs (Decidable (_ ∧ _))

/-- The tags and the attributes have names, and a group of elements can be told from
    an element with a text. -/
inductive Element.Proper : Element → Prop
  | leaf {tag : String} {attributes : List Attribute} (named : IsName tag)
      (attributesNamed : ∀ a ∈ attributes, IsName a.name) : Proper (.leaf tag attributes)
  | text {tag content : String} (named : IsName tag) : Proper (.text tag content)
  | group {tag : String} {attributes : List Attribute} {children : List Element} (named : IsName tag)
      (attributesNamed : ∀ a ∈ attributes, IsName a.name)
      (inhabited : attributes ≠ [] ∨ children ≠ [])
      (proper : ∀ child ∈ children, child.Proper) : Proper (.group tag attributes children)

theorem not_delimiter_of_name {c : Char} (name : isNameCharacter c) : isDelimiter c = false := by
  rw [← Bool.not_eq_true]
  intro delimiter
  simp only [isDelimiter, Bool.or_eq_true, decide_eq_true_eq] at delimiter
  rcases delimiter with (rfl | rfl) | rfl <;> revert name <;> decide

theorem IsName.no_delimiter {text : String} (name : IsName text) :
    ∀ c ∈ text.toList, isDelimiter c = false :=
  fun c member => not_delimiter_of_name (List.all_eq_true.mp name.2 c member)

theorem cuttable_lineStart (level : Nat) : (Part.markup (lineStart level) '<').piece.Cuttable := by
  have plain : ∀ c ∈ lineStart level, isDelimiter c = false := by
    intro c member
    simp only [lineStart, indentation, String.toList_ofList, List.mem_cons, List.mem_replicate] at member
    rcases member with rfl | ⟨_, rfl⟩ <;> decide
  exact ⟨plain, rfl⟩

theorem cuttable_closing {tag : String} (named : IsName tag) :
    (Part.markup ('/' :: tag.toList) '>').piece.Cuttable :=
  ⟨List.forall_mem_cons.mpr ⟨rfl, named.no_delimiter⟩, rfl⟩

theorem cuttable_escaped (text : String) {delimiter : Char} (ends : isDelimiter delimiter) :
    (Piece.mk (escape text).toList delimiter).Cuttable :=
  ⟨escape_no_delimiter text, ends⟩

theorem cuttable_tagParts {read : List Char} (tail : List Char) {attributes : List Attribute}
    (readPlain : ∀ c ∈ read, isDelimiter c = false) (tailPlain : ∀ c ∈ tail, isDelimiter c = false)
    (named : ∀ a ∈ attributes, IsName a.name) :
    ∀ part ∈ tagParts read tail attributes, part.piece.Cuttable := by
  induction attributes generalizing read with
  | nil =>
    intro part member
    obtain rfl := List.mem_singleton.mp member
    exact ⟨List.forall_mem_append.mpr ⟨readPlain, tailPlain⟩, rfl⟩
  | cons a rest ih =>
    obtain ⟨head, restNamed⟩ := List.forall_mem_cons.mp named
    have equals : ∀ c ∈ ' ' :: a.name.toList ++ ['='], isDelimiter c = false :=
      List.forall_mem_append.mpr ⟨List.forall_mem_cons.mpr ⟨rfl, head.no_delimiter⟩, by simp [isDelimiter]⟩
    refine List.forall_mem_cons.mpr ⟨⟨List.forall_mem_append.mpr ⟨readPlain, equals⟩, rfl⟩, ?_⟩
    exact List.forall_mem_cons.mpr ⟨cuttable_escaped a.value rfl, ih (by simp) restNamed⟩

theorem cuttable_allParts {level : Nat} {elements : List Element}
    (cuttable : ∀ element ∈ elements, ∀ part ∈ element.parts level, part.piece.Cuttable) :
    ∀ part ∈ allParts level elements, part.piece.Cuttable := by
  induction elements with
  | nil => simp [allParts]
  | cons element rest ih =>
    obtain ⟨head, tail⟩ := List.forall_mem_cons.mp cuttable
    exact List.forall_mem_append.mpr ⟨head, ih tail⟩

theorem Element.Proper.cuttable {element : Element} (proper : element.Proper) (level : Nat) :
    ∀ part ∈ element.parts level, part.piece.Cuttable := by
  induction proper generalizing level with
  | leaf named attributesNamed =>
    have tag := cuttable_tagParts [' ', '/'] named.no_delimiter (by simp [isDelimiter]) attributesNamed
    exact List.forall_mem_cons.mpr ⟨cuttable_lineStart level, tag⟩
  | @text tag content named =>
    have opening : (Part.markup tag.toList '>').piece.Cuttable := ⟨named.no_delimiter, rfl⟩
    have held : (Part.content tag content).piece.Cuttable := cuttable_escaped content rfl
    simp only [Element.parts, List.forall_mem_cons]
    exact ⟨cuttable_lineStart level, opening, held, cuttable_closing named, by simp⟩
  | group named attributesNamed _ _ ih =>
    have tag := cuttable_tagParts [] named.no_delimiter (by simp) attributesNamed
    have inner := cuttable_allParts fun child member => ih child member (level + 1)
    simp only [Element.parts, List.forall_mem_cons, List.forall_mem_append]
    exact ⟨⟨⟨cuttable_lineStart level, tag⟩, inner⟩, cuttable_lineStart level, cuttable_closing named, by simp⟩

theorem declarationParts_cuttable : ∀ part ∈ declarationParts, part.piece.Cuttable := by
  have tag := @cuttable_tagParts "?xml".toList ['?'] [⟨"version", "1.0"⟩, ⟨"encoding", "UTF-8"⟩]
    (by simp [isDelimiter]) (by simp [isDelimiter]) (by decide)
  exact List.forall_mem_cons.mpr ⟨⟨by simp [Part.piece], rfl⟩, tag⟩

theorem cut_written {parts : List Part} {last : List Char} (cuttable : ∀ part ∈ parts, part.piece.Cuttable)
    (plain : ∀ c ∈ last, isDelimiter c = false) :
    cut (written parts ++ last) = (parts.map Part.piece, last) := by
  rw [written, ← List.flatMap_map]
  exact cut_pieces (List.forall_mem_map.mpr cuttable) plain

/-- Cutting a document gives the pieces of its tree, and a line end behind the last. -/
theorem cut_document {root : Element} (proper : root.Proper) :
    cut (document root).toList = ((declarationParts ++ root.parts 0).map Part.piece, ['\n']) := by
  rw [document_toList]
  have cuttable := List.forall_mem_append.mpr ⟨declarationParts_cuttable, proper.cuttable 0⟩
  exact cut_written cuttable (by simp [isDelimiter])

end PlantDrawing.Markup
