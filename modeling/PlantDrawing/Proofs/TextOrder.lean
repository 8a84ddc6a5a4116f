import PlantDrawing.Text

/-!
# The order of texts

A text is told by the numbers of its code points (`numbers_injective`), so texts are
in a linear order by these.
-/
namespace PlantDrawing

namespace CodePoint

/-- No character is half of a surrogate pair. -/
theorem character_apart (c : Char) (offset : Fin 0x800) : c.toNat ≠ 0xD800 + offset := by
  have valid : c.toNat < 0xD800 ∨ 0xDFFF < c.toNat ∧ c.toNat < 0x110000 := c.valid
  omega

theorem number_injective : Function.Injective number := by
  rintro (c | offset) (d | other) same
  · exact congrArg character (Char.toNat_inj.mp same)
  · exact absurd same (character_apart c other)
  · exact absurd same.symm (character_apart d offset)
  · exact congrArg half (Fin.ext (Nat.add_left_cancel same))

end CodePoint

namespace Text

variable {first second third : Text}

/-- The code points of a text. -/
def points : Text → List CodePoint
  | string content => content.toList.map .character
  | broken points _ => points

theorem numbers_eq (text : Text) : text.numbers = text.points.map CodePoint.number := by
  cases text with
  | string content =>
    rw [numbers, points, List.map_map]
    rfl
  | broken points stray => rfl

theorem points_injective : Function.Injective points := by
  have whole (content : String) : (content.toList.map CodePoint.character).any CodePoint.isHalf = false := by
    simp [CodePoint.isHalf]
  rintro (content | ⟨row, stray⟩) (other | ⟨row', stray'⟩) same
  · have alike := (List.map_inj_right fun _ _ => CodePoint.character.inj).mp same
    exact congrArg string (String.toList_inj.mp alike)
  · have none := (whole content).symm.trans (congrArg (List.any · CodePoint.isHalf) same)
    exact absurd (none.trans stray') nofun
  · have none := (whole other).symm.trans (congrArg (List.any · CodePoint.isHalf) same.symm)
    exact absurd (none.trans stray) nofun
  · cases same
    rfl

theorem numbers_injective : Function.Injective numbers := by
  intro first second same
  rw [numbers_eq, numbers_eq] at same
  exact points_injective ((List.map_inj_right fun _ _ => @CodePoint.number_injective _ _).mp same)

theorem le_total (first second : Text) : first ≤ second ∨ second ≤ first :=
  List.le_total first.numbers second.numbers

theorem le_trans (below : first ≤ second) (above : second ≤ third) : first ≤ third :=
  List.le_trans below above

theorem lt_of_le_of_ne (below : first ≤ second) (apart : first ≠ second) : first < second :=
  -- What is not less the other way around either is the same.
  Classical.byContradiction fun notBelow => apart (numbers_injective (List.le_antisymm below notBelow))

instance : Std.Irrefl ((· < ·) : Text → Text → Prop) := ⟨fun text => List.lt_irrefl text.numbers⟩

instance : Std.Antisymm ((· < ·) : Text → Text → Prop) :=
  ⟨fun first _ below above => absurd (List.lt_trans below above) (List.lt_irrefl first.numbers)⟩

end Text

end PlantDrawing
