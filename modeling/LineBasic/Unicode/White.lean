import LineBasic.Unicode.CodeRange

/-!
# White space

Two sets that differ in two characters. The property White_Space decides
which lines are blank. Inside a line, tokens are set apart by a *gap*: white
space and the byte order mark, but not the next-line control U+0085.
-/

namespace LineBasic

/-- The code points with the property White_Space. -/
def whiteRanges : List CodeRange :=
  [(0x9, 0xD), (0x20, 0x20), (0x85, 0x85), (0xA0, 0xA0), (0x1680, 0x1680),
   (0x2000, 0x200A), (0x2028, 0x2029), (0x202F, 0x202F), (0x205F, 0x205F),
   (0x3000, 0x3000)]

theorem whiteRanges_ascending : CodeRange.AscendingFrom 0 whiteRanges := by decide +kernel

/-- The property White_Space. -/
def isWhite (c : Char) : Bool := CodeRange.covers whiteRanges c.toNat

/-- What may stand between two tokens of a line. -/
def isGap (c : Char) : Bool := c.toNat == 0xFEFF || (isWhite c && c.toNat != 0x85)

end LineBasic
