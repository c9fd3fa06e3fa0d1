import GraphReplay.Text.Ranges

/-!
# Blanks

The characters with the Unicode property White_Space: spaces of every width,
tabs and line breaks. There are more of them than `Char.isWhitespace` knows.
-/

namespace GraphReplay.Text

/-- The blank code points. -/
def blankRanges : Ranges :=
  [(0x9, 0xd), (0x20, 0x20), (0x85, 0x85), (0xa0, 0xa0), (0x1680, 0x1680), (0x2000, 0x200a),
   (0x2028, 0x2029), (0x202f, 0x202f), (0x205f, 0x205f), (0x3000, 0x3000)]

/-- Whether a character is blank. -/
def isBlank (c : Char) : Bool := blankRanges.holds c

example : blankRanges.apart = true := by decide

example : blankRanges.size = 25 := by decide

end GraphReplay.Text
