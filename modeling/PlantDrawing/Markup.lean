/-!
# Markup

A document is a tree of elements. An element is written over lines of its own:
one that holds nothing or a text on a single line, one that holds elements on a
line for each of its tags with its children between them, two blanks further to
the right. Texts and the values of attributes are escaped character by
character, so none of them can be mistaken for markup.
-/

namespace PlantDrawing.Markup

/-! ## Escapes -/

/-- How a character is written in a text or in the value of an attribute. -/
def escapeCharacter : Char → List Char
  | '&' => ['&', 'a', 'm', 'p', ';']
  | '<' => ['&', 'l', 't', ';']
  | '>' => ['&', 'g', 't', ';']
  | '"' => ['&', 'q', 'u', 'o', 't', ';']
  | c => [c]

/-- How a text is written. -/
def escape (text : String) : String :=
  String.ofList (text.toList.flatMap escapeCharacter)

/-! ## Elements -/

/-- An attribute: a name and the value it is given. -/
structure Attribute where
  name : String
  value : String
  deriving DecidableEq, Repr

/-- An element with its tag. -/
inductive Element where
  /-- An element that holds nothing. -/
  | leaf (tag : String) (attributes : List Attribute)
  /-- An element that holds a text. -/
  | text (tag : String) (content : String)
  /-- An element that holds elements. -/
  | group (tag : String) (attributes : List Attribute) (children : List Element)

/-- An attribute with the blank in front of it. -/
def Attribute.written (a : Attribute) : String :=
  " " ++ a.name ++ "=\"" ++ escape a.value ++ "\""

/-- Attributes one after another. -/
def attributesWritten (attributes : List Attribute) : String :=
  attributes.foldl (fun line a => line ++ a.written) ""

/-- The blanks in front of a line at a nesting level. -/
def indentation (level : Nat) : String :=
  String.ofList (List.replicate (2 * level) ' ')

mutual

/-- Adds the lines of an element at a nesting level to the lines before it. -/
def Element.addLines (level : Nat) (before : Array String) : Element → Array String
  | .leaf tag attributes =>
    before.push (indentation level ++ "<" ++ tag ++ attributesWritten attributes ++ " />")
  | .text tag content =>
    before.push (indentation level ++ "<" ++ tag ++ ">" ++ escape content ++ "</" ++ tag ++ ">")
  | .group tag attributes children =>
    let opened := before.push (indentation level ++ "<" ++ tag ++ attributesWritten attributes ++ ">")
    (addAllLines (level + 1) opened children).push (indentation level ++ "</" ++ tag ++ ">")

/-- Adds the lines of several elements, one after another. -/
def addAllLines (level : Nat) (before : Array String) : List Element → Array String
  | [] => before
  | element :: rest => addAllLines level (element.addLines level before) rest

end

/-- The line that opens every document. -/
def declaration : String := "<?xml version=\"1.0\" encoding=\"UTF-8\"?>"

/-- The text of a document with a given root, every line ended. -/
def document (root : Element) : String :=
  (root.addLines 0 #[declaration]).foldl (fun text line => text ++ line ++ "\n") ""

end PlantDrawing.Markup
