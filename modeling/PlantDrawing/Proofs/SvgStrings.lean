import PlantDrawing.Proofs.SvgContents

/-!
# Strings in an SVG document

Five strings of a document are free text: the title, the background and the three words
of the style. Whatever they hold, the markup around them stays the same, and each of them
can be read back where it stands (`svgDocument_same_markup`).
-/
namespace PlantDrawing

open Markup

/-- The options with another background and another style. -/
def SvgOptions.restyled (options : SvgOptions) (background : Option Text) (style : StrokeStyle) : SvgOptions :=
  { options with background := background, style := style }

/-- The texts of the options, each as it is shown: a string as it is. -/
def SvgOptions.words (options : SvgOptions) : SvgDocument.Palette :=
  ⟨options.background.map Text.shown, options.style.color.shown, options.style.linecap.shown,
    options.style.linejoin.shown⟩

namespace SvgDocument

/-- The strings of a document that are free text. -/
inductive FreeString where
  | title
  | background
  | color
  | linecap
  | linejoin
  deriving DecidableEq, Repr

/-- The free text of a document that is painted with a palette and has a title. -/
def FreeString.text (colors : Palette) (shown : Option String) : FreeString → String
  | title => shown.getD ""
  | background => colors.background.getD ""
  | color => colors.color
  | linecap => colors.linecap
  | linejoin => colors.linejoin

/-- A document is painted with the texts of its options. -/
theorem words_of_palette {options : SvgOptions} {colors : Palette} (encoded : palette options = .ok colors) :
    options.words = colors := by
  obtain ⟨painted, styled⟩ := palette_eq_ok.mp encoded
  obtain ⟨background, color, linecap, linejoin⟩ := colors
  unfold SvgOptions.words
  rw [painted, styled]
  cases background <;> rfl

/-- Two sequences of pieces differ in the places of free strings alone, which are listed in
    their order. At these places the two have the same delimiter, and reading the entities
    gives the one text here and the other there. -/
inductive SameMarkup (text text' : FreeString → String) : List FreeString → List Piece → List Piece → Prop
  | nil : SameMarkup text text' [] [] []
  | markup {free : List FreeString} {pieces pieces' : List Piece} (piece : Piece)
      (rest : SameMarkup text text' free pieces pieces') :
      SameMarkup text text' free (piece :: pieces) (piece :: pieces')
  | free {free : List FreeString} {pieces pieces' : List Piece} {content content' : List Char}
      (string : FreeString) (delimiter : Char) (here : unescape content = (text string).toList)
      (there : unescape content' = (text' string).toList) (rest : SameMarkup text text' free pieces pieces') :
      SameMarkup text text' (string :: free) (⟨content, delimiter⟩ :: pieces) (⟨content', delimiter⟩ :: pieces')

namespace SameMarkup

variable {text text' : FreeString → String} {free others : List FreeString} {pieces pieces' : List Piece}

theorem refl (pieces : List Piece) : SameMarkup text text' [] pieces pieces := by
  induction pieces with
  | nil => exact .nil
  | cons piece pieces ih => exact .markup piece ih

theorem append {more more' : List Piece} (first : SameMarkup text text' free pieces pieces')
    (second : SameMarkup text text' others more more') :
    SameMarkup text text' (free ++ others) (pieces ++ more) (pieces' ++ more') := by
  induction first with
  | nil => exact second
  | markup piece _ ih => exact .markup piece ih
  | free string delimiter here there _ ih => exact .free string delimiter here there ih

theorem delimiters (same : SameMarkup text text' free pieces pieces') :
    pieces.map Piece.delimiter = pieces'.map Piece.delimiter := by
  induction same with
  | nil => rfl
  | markup piece _ ih => simp [ih]
  | free string delimiter _ _ _ ih => simp [ih]

end SameMarkup

/-! ## Tags and elements -/

/-- The parts have the same markup. -/
def SameParts (text text' : FreeString → String) (free : List FreeString) (parts parts' : List Part) : Prop :=
  SameMarkup text text' free (parts.map Part.piece) (parts'.map Part.piece)

/-- The elements have the same markup wherever they stand. -/
def SameElements (text text' : FreeString → String) (free : List FreeString)
    (elements elements' : List Element) : Prop :=
  ∀ level, SameParts text text' free (allParts level elements) (allParts level elements')

section Elements

variable {text text' : FreeString → String} {free others : List FreeString}

theorem SameParts.append {parts parts' more more' : List Part} (first : SameParts text text' free parts parts')
    (second : SameParts text text' others more more') :
    SameParts text text' (free ++ others) (parts ++ more) (parts' ++ more') := by
  simpa only [SameParts, List.map_append] using SameMarkup.append first second

section Tags

variable {tail : List Char} {rest rest' : List Attribute}

theorem same_attribute (read : List Char) (a : Attribute)
    (same : SameParts text text' free (tagParts [] tail rest) (tagParts [] tail rest')) :
    SameParts text text' free (tagParts read tail (a :: rest)) (tagParts read tail (a :: rest')) :=
  .markup _ (.markup _ same)

theorem free_attribute (read : List Char) (name : String) (string : FreeString)
    (same : SameParts text text' free (tagParts [] tail rest) (tagParts [] tail rest')) :
    SameParts text text' (string :: free) (tagParts read tail (⟨name, text string⟩ :: rest))
      (tagParts read tail (⟨name, text' string⟩ :: rest')) :=
  .markup _ (.free string '"' (unescape_escape _) (unescape_escape _) same)

end Tags

variable {elements elements' : List Element}

theorem SameElements.refl (elements : List Element) : SameElements text text' [] elements elements :=
  fun _ => SameMarkup.refl _

theorem allParts_append (level : Nat) (elements others : List Element) :
    allParts level (elements ++ others) = allParts level elements ++ allParts level others := by
  induction elements with
  | nil => rfl
  | cons element elements ih => simp [allParts, ih]

theorem SameElements.append {more more' : List Element} (first : SameElements text text' free elements elements')
    (second : SameElements text text' others more more') :
    SameElements text text' (free ++ others) (elements ++ more) (elements' ++ more') := by
  intro level
  rw [allParts_append, allParts_append]
  exact (first level).append (second level)

theorem SameElements.map {α : Type} {items : List α} {element element' : α → Element}
    (same : ∀ item ∈ items, SameElements text text' free [element item] [element' item]) :
    SameElements text text' (items.flatMap fun _ => free) (items.map element) (items.map element') := by
  induction items with
  | nil => exact .refl []
  | cons item items ih =>
    obtain ⟨head, tail⟩ := List.forall_mem_cons.mp same
    exact head.append (ih tail)

theorem same_leaf (tag : String) {attributes attributes' : List Attribute}
    (same : SameParts text text' free (tagParts tag.toList [' ', '/'] attributes)
      (tagParts tag.toList [' ', '/'] attributes')) :
    SameElements text text' free [.leaf tag attributes] [.leaf tag attributes'] := by
  intro level
  simp only [allParts, Element.parts, List.append_nil]
  exact .markup _ same

theorem same_group (tag : String) {attributes attributes' : List Attribute}
    (same : SameParts text text' free (tagParts tag.toList [] attributes) (tagParts tag.toList [] attributes'))
    (inner : SameElements text text' others elements elements') :
    SameElements text text' (free ++ others) [.group tag attributes elements]
      [.group tag attributes' elements'] := by
  intro level
  have closing : SameParts text text' [] [.markup (lineStart level) '<', .markup ('/' :: tag.toList) '>']
    [.markup (lineStart level) '<', .markup ('/' :: tag.toList) '>'] := SameMarkup.refl _
  have whole := (same.append (inner (level + 1))).append closing
  simp only [allParts, Element.parts, List.append_nil, List.cons_append] at whole ⊢
  exact .markup _ whole

theorem same_around (tag : String) (attributes : List Attribute)
    (inner : SameElements text text' others elements elements') :
    SameElements text text' others [.group tag attributes elements] [.group tag attributes elements'] :=
  same_group tag (SameMarkup.refl _) inner

theorem free_text (tag : String) (string : FreeString) :
    SameElements text text' [string] [.text tag (text string)] [.text tag (text' string)] := by
  intro level
  simp only [allParts, Element.parts, List.append_nil]
  have closing : SameParts text text' [] [.markup ('/' :: tag.toList) '>'] [.markup ('/' :: tag.toList) '>'] :=
    SameMarkup.refl _
  exact .markup _ (.markup _ (.free string '<' (unescape_escape _) (unescape_escape _) closing))

end Elements

/-! ## Documents -/

section Documents

theorem filter_toList_cases (string : Option String) (p : String → Bool) :
    string.toList.filter p = [] ∨ string.toList.filter p = [string.getD ""] := by
  cases string with
  | none => exact .inl rfl
  | some string => cases kept : p string <;> simp [kept]

/-- A free string that both documents show, or neither. -/
theorem SameElements.shown {text text' : FreeString → String} {shown shown' : List String} (string : FreeString)
    (cases : shown = [] ∨ shown = [text string]) (cases' : shown' = [] ∨ shown' = [text' string])
    (both : shown = [] ↔ shown' = []) {element : String → Element}
    (same : SameElements text text' [string] [element (text string)] [element (text' string)]) :
    SameElements text text' (shown.map fun _ => string) (shown.map element) (shown'.map element) := by
  rcases cases with rfl | rfl
  · rw [both.mp rfl]
    exact .refl []
  · rcases cases' with rfl | rfl
    · cases both.mpr rfl
    · exact same

variable (colors colors' : Palette) (title title' : Option String)

theorem same_titles (both : titleShown title = [] ↔ titleShown title' = []) :
    SameElements (FreeString.text colors title) (FreeString.text colors' title')
      ((titleShown title).map fun _ => .title) (titleElements title) (titleElements title') := by
  rw [titleElements_eq, titleElements_eq]
  exact .shown .title (filter_toList_cases title _) (filter_toList_cases title' _) both
    (free_text "title" .title)

theorem same_backgrounds (both : backgroundShown colors.background = [] ↔ backgroundShown colors'.background = [])
    (box : Box) (places : Nat) :
    SameElements (FreeString.text colors title) (FreeString.text colors' title')
      ((backgroundShown colors.background).map fun _ => .background)
      (backgroundElements colors.background box places) (backgroundElements colors'.background box places) := by
  rw [backgroundElements_eq, backgroundElements_eq]
  refine .shown .background (filter_toList_cases _ _) (filter_toList_cases _ _) both (same_leaf "rect" ?_)
  iterate 4 refine same_attribute _ _ ?_
  exact free_attribute _ "fill" .background (SameMarkup.refl _)

theorem same_bands (bands : List Band) (places : Nat) :
    SameElements (FreeString.text colors title) (FreeString.text colors' title')
      (bands.flatMap fun _ => [.color, .linecap, .linejoin])
      (bands.map (bandElement colors places)) (bands.map (bandElement colors' places)) := by
  refine SameElements.map fun band _ => ?_
  refine @same_group _ _ [.color, .linecap, .linejoin] [] _ _ "g" _ _ ?_ (.refl _)
  refine same_attribute _ _ (free_attribute _ "stroke" .color (same_attribute _ _ ?_))
  exact free_attribute _ "stroke-linecap" .linecap
    (free_attribute _ "stroke-linejoin" .linejoin (SameMarkup.refl _))

theorem same_drawing {text text' : FreeString → String} {free : List FreeString} {groups groups' : List Element}
    (same : SameElements text text' free groups groups') (flipY : Bool) (box : Box) (places : Nat) :
    SameElements text text' free (drawingElements flipY box places groups)
      (drawingElements flipY box places groups') := by
  cases flipY with
  | false => exact same
  | true => exact same_around "g" _ same

variable {options : SvgOptions} {title title'}

/-- The trees of documents that differ in their free strings have the same markup. -/
theorem same_trees {segments : List Segment} {stroke : Float} {background' : Option Text}
    {style' : StrokeStyle} {whole whole' : Element}
    (built : tree segments options stroke title = .ok whole)
    (built' : tree segments (options.restyled background' style') stroke title' =
      .ok whole')
    (titles : titleShown title = [] ↔ titleShown title' = [])
    (backgrounds : backgroundShown options.words.background = [] ↔
      backgroundShown (options.restyled background' style').words.background = []) :
    ∃ depths : List Int, depths.Pairwise (· < ·) ∧
      (∀ depth, depth ∈ depths ↔ ∃ segment ∈ segments, segment.depth = depth) ∧
      SameElements (FreeString.text options.words title)
        (FreeString.text (options.restyled background' style').words title')
        (((titleShown title).map fun _ => .title) ++
          (if segments = [] then [] else (backgroundShown options.words.background).map fun _ => .background) ++
          depths.flatMap fun _ => [.color, .linecap, .linejoin])
        [whole] [whole'] := by
  obtain ⟨turned, sizes, rotated, sized, ends⟩ := tree_eq_ok built
  obtain ⟨turned', sizes', rotated', sized', ends'⟩ := tree_eq_ok built'
  obtain rfl : turned = turned' := Except.ok.inj (rotated.symm.trans rotated')
  obtain rfl : sizes = sizes' := Except.ok.inj (sized.symm.trans sized')
  refine ⟨(Layer.ofSegments turned).map Layer.depth, Layer.ofSegments_pairwise,
    fun depth => Segment.mem_rotate_depths rotated, ?_⟩
  have shown := same_titles options.words (options.restyled background' style').words title title' titles
  rcases ends with ⟨empty, rfl⟩ | ⟨drawn, page, colors, laidOut, encoded, rfl⟩
  · rcases ends' with ⟨_, rfl⟩ | ⟨drawn, _⟩
    · have nothing : segments = [] := (Segment.rotate_eq_nil_iff rotated).mp empty
      subst empty
      rw [if_pos nothing]
      simpa [Layer.ofSegments, emptyRoot] using same_around "svg" (rootAttributes ++ sizes) shown
    · exact absurd empty drawn
  · rcases ends' with ⟨empty, _⟩ | ⟨_, page', colors', laidOut', encoded', rfl⟩
    · exact absurd empty drawn
    · obtain rfl : page = page' := Except.ok.inj (laidOut.symm.trans laidOut')
      have something : segments ≠ [] := fun nothing => drawn ((Segment.rotate_eq_nil_iff rotated).mpr nothing)
      have groups : ((Layer.ofSegments turned).map Layer.depth).flatMap
            (fun _ => [FreeString.color, .linecap, .linejoin]) =
          page.bands.flatMap fun _ => [.color, .linecap, .linejoin] := by
        rw [(bands_eq_ok (layout_eq_ok laidOut).2).1, List.flatMap_map, List.flatMap_map]
      rw [words_of_palette encoded, words_of_palette encoded'] at shown backgrounds ⊢
      have painted := same_backgrounds colors colors' title title' backgrounds page.box page.places
      have bands := same_bands colors colors' title title' page.bands page.places
      have drawing := same_drawing bands options.flipY page.box page.places
      rw [if_neg something, groups]
      exact same_around "svg" _ ((shown.append painted).append drawing)

end Documents

end SvgDocument

open SvgDocument

variable {segments : List Segment} {options : SvgOptions} {stroke : Float} {title title' : Option String}

/-- Two documents for one drawing whose options differ in their free strings alone, where
    both or neither show a title and a background. Cut at the brackets and the double
    quotes, the two have the same pieces but for those of the free strings: the title, the
    background, and the style once for each depth. There, each has its own string. -/
theorem svgDocument_same_markup {background' : Option Text} {style' : StrokeStyle} {text text' : String}
    (written : svgDocument segments options stroke title = .ok text)
    (written' : svgDocument segments (options.restyled background' style') stroke title' =
      .ok text')
    (titles : titleShown title = [] ↔ titleShown title' = [])
    (backgrounds : backgroundShown options.words.background = [] ↔
      backgroundShown (options.restyled background' style').words.background = []) :
    (cut text.toList).1.map Piece.delimiter = (cut text'.toList).1.map Piece.delimiter ∧
    (cut text.toList).2 = (cut text'.toList).2 ∧
    ∃ depths : List Int, depths.Pairwise (· < ·) ∧
      (∀ depth, depth ∈ depths ↔ ∃ segment ∈ segments, segment.depth = depth) ∧
      SameMarkup (FreeString.text options.words title)
        (FreeString.text (options.restyled background' style').words title')
        (((titleShown title).map fun _ => .title) ++
          (if segments = [] then [] else (backgroundShown options.words.background).map fun _ => .background) ++
          depths.flatMap fun _ => [.color, .linecap, .linejoin])
        (cut text.toList).1 (cut text'.toList).1 := by
  obtain ⟨whole, built, rfl⟩ := Outcome.map_eq_ok.mp written
  obtain ⟨whole', built', rfl⟩ := Outcome.map_eq_ok.mp written'
  rw [cut_document (proper_tree built), cut_document (proper_tree built')]
  obtain ⟨depths, sorted, occurring, same⟩ := same_trees built built' titles backgrounds
  have opened : SameMarkup (FreeString.text options.words title)
      (FreeString.text (options.restyled background' style').words title') []
      (declarationParts.map Part.piece) (declarationParts.map Part.piece) := .refl _
  have all := opened.append (same 0)
  simp only [allParts, List.append_nil, ← List.map_append] at all
  exact ⟨all.delimiters, rfl, depths, sorted, occurring, all⟩

/-- A document with plain strings, and one whose strings close tags and quotes, open
    elements and hold entities. -/
theorem twigAndStem_same_markup :
    ∃ text text' : String,
      svgDocument twigAndStem { rotation := 0, background := some "white" } 2 (some "Twig") = .ok text ∧
      svgDocument twigAndStem
        (SvgOptions.restyled { rotation := 0, background := some "white" } (some "\" /><g a=\"")
          ⟨"&quot;", "\">", "&amp;lt;"⟩) 2 (some "</title><script>") = .ok text' ∧
      (cut text.toList).1.map Piece.delimiter = (cut text'.toList).1.map Piece.delimiter ∧
      ∃ depths : List Int, depths.Pairwise (· < ·) ∧ (∀ depth, depth ∈ depths ↔ depth = 1 ∨ depth = 0) ∧
        SameMarkup (FreeString.text ⟨some "white", "#2f5d1e", "round", "round"⟩ (some "Twig"))
          (FreeString.text ⟨some "\" /><g a=\"", "&quot;", "\">", "&amp;lt;"⟩ (some "</title><script>"))
          ([.title, .background] ++ depths.flatMap fun _ => [.color, .linecap, .linejoin])
          (cut text.toList).1 (cut text'.toList).1 := by
  have plain : (svgDocument twigAndStem { rotation := 0, background := some "white" } 2
    (some "Twig")).toBool = true := by decide +kernel
  have wild : (svgDocument twigAndStem
    (SvgOptions.restyled { rotation := 0, background := some "white" } (some "\" /><g a=\"")
      ⟨"&quot;", "\">", "&amp;lt;"⟩) 2 (some "</title><script>")).toBool = true := by decide +kernel
  obtain ⟨text, written⟩ := Outcome.exists_of_toBool plain
  obtain ⟨text', written'⟩ := Outcome.exists_of_toBool wild
  have titled : titleShown (some "Twig") = ["Twig"] := by decide
  have painted : backgroundShown (SvgOptions.words { rotation := 0, background := some "white" }).background =
    ["white"] := by decide +kernel
  obtain ⟨delimiters, _, depths, sorted, occurring, same⟩ :=
    svgDocument_same_markup written written' (by decide) (by decide +kernel)
  rw [titled, painted] at same
  refine ⟨text, text', written, written', delimiters, depths, sorted, ?_, same⟩
  intro depth
  rw [occurring]
  simp [twigAndStem, eq_comm]

end PlantDrawing
