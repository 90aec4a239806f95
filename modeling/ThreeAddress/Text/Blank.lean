import ThreeAddress.Text.CharClass

/-!
# Blank characters

The characters that separate tokens and fields: those with the Unicode property
`White_Space`.
-/

namespace ThreeAddress.Text

/-- The ranges of the property `White_Space`: 25 characters. -/
def blankRanges : CharClass :=
  [(0x9, 0xD), (0x20, 0x20), (0x85, 0x85), (0xA0, 0xA0), (0x1680, 0x1680), (0x2000, 0x200A),
   (0x2028, 0x2029), (0x202F, 0x202F), (0x205F, 0x205F), (0x3000, 0x3000)]

/-- Whether a character is blank. -/
def isBlank (c : Char) : Bool :=
  blankRanges.contains c

end ThreeAddress.Text
