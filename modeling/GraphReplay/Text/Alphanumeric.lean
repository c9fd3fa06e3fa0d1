import GraphReplay.Text.Alphabetic
import GraphReplay.Text.Numeric

/-!
# Letters and numbers
-/

namespace GraphReplay.Text

/-- Whether a character is alphabetic or numeric. -/
def isAlphanumeric (c : Char) : Bool := isAlphabetic c || isNumeric c

end GraphReplay.Text
