/-!
# Decimal digits of all scripts

The characters that stand for the digits zero to nine in some script, and the
blanks of all scripts, for version 14 of the Unicode character database. The ten
digits of a script follow one another, so its zero tells them all.
-/

namespace PlantDrawing.DecimalDigit

/-- The code points of the zeros, in increasing order. -/
def zeros : List Nat :=
  [0x30, 0x660, 0x6F0, 0x7C0, 0x966, 0x9E6, 0xA66, 0xAE6, 0xB66, 0xBE6, 0xC66, 0xCE6, 0xD66, 0xDE6,
   0xE50, 0xED0, 0xF20, 0x1040, 0x1090, 0x17E0, 0x1810, 0x1946, 0x19D0, 0x1A80, 0x1A90, 0x1B50,
   0x1BB0, 0x1C40, 0x1C50, 0xA620, 0xA8D0, 0xA900, 0xA9D0, 0xA9F0, 0xAA50, 0xABF0, 0xFF10, 0x104A0,
   0x10D30, 0x11066, 0x110F0, 0x11136, 0x111D0, 0x112F0, 0x11450, 0x114D0, 0x11650, 0x116C0,
   0x11730, 0x118E0, 0x11950, 0x11C50, 0x11D50, 0x11DA0, 0x16A60, 0x16AC0, 0x16B50, 0x1D7CE,
   0x1D7D8, 0x1D7E2, 0x1D7EC, 0x1D7F6, 0x1E140, 0x1E2F0, 0x1E950, 0x1FBF0]

/-- The digit that a character stands for. -/
def value? (c : Char) : Option Nat :=
  (zeros.find? fun first => first ≤ c.toNat && c.toNat < first + 10).map (c.toNat - ·)

/-- Whether a character stands for a digit. -/
def isDecimal (c : Char) : Bool :=
  (value? c).isSome

/-- The digit character of a value below ten. -/
def ascii (value : Nat) : Char :=
  Char.ofNat ('0'.toNat + value)

/-- The code points of the blanks beyond the first 128 characters. -/
def wideBlanks : List Nat :=
  [0x85, 0xA0, 0x1680, 0x2000, 0x2001, 0x2002, 0x2003, 0x2004, 0x2005, 0x2006, 0x2007, 0x2008,
   0x2009, 0x200A, 0x2028, 0x2029, 0x202F, 0x205F, 0x3000]

/-- The digits of the first 128 characters stand for their own values. -/
theorem value?_of_mem_range {c : Char} (least : '0'.toNat ≤ c.toNat) (most : c.toNat ≤ '9'.toNat) :
    value? c = some (c.toNat - '0'.toNat) := by
  have least : 48 ≤ c.toNat := least
  have most : c.toNat ≤ 57 := most
  have within : c.toNat < 58 := by omega
  simp [value?, zeros, least, within]

/-- Every value of a digit is below ten. -/
theorem value?_lt {c : Char} {d : Nat} (found : value? c = some d) : d < 10 := by
  simp only [value?, Option.map_eq_some_iff] at found
  obtain ⟨first, isZero, rfl⟩ := found
  have within := List.find?_some isZero
  simp only [Bool.and_eq_true, decide_eq_true_eq] at within
  omega

end PlantDrawing.DecimalDigit
