import GraphReplay.Defect

/-!
# Positions in a text

A position in a text is a number of bytes, as the text is written in UTF-8. A
piece can be cut out of the text only where both of its ends lie between two
characters; cutting a character in two is a defect.
-/

namespace GraphReplay.Text

/-- The bytes that a text takes. -/
def byteSize : List Char → Nat
  | [] => 0
  | c :: s => c.utf8Size + byteSize s

/-- The character that a position lies inside of, and where that character begins. The text begins
    at `first`. -/
def inside? (position : Nat) : Nat → List Char → Option (Char × Nat)
  | _, [] => none
  | first, c :: s =>
    if position ≤ first then none
    else if position < first + c.utf8Size then some (c, first)
    else inside? position (first + c.utf8Size) s

/-- Make sure that a position lies between two characters. -/
def checkCut (e : CutEnd) (position : Nat) (s : List Char) : Except Defect Unit :=
  match inside? position 0 s with
  | some (c, first) => .error (.splitCharacter e position c first)
  | none => .ok ()

/-- What is left of a text behind its first bytes. -/
def dropBytes : Nat → List Char → List Char
  | _, [] => []
  | 0, s => s
  | n + 1, c :: s => dropBytes (n + 1 - c.utf8Size) s

/-- The first bytes of a text. -/
def takeBytes : Nat → List Char → List Char
  | _, [] => []
  | 0, _ => []
  | n + 1, c :: s => c :: takeBytes (n + 1 - c.utf8Size) s

/-- The piece of a text from `start` on. -/
def cutFrom (s : List Char) (start : Nat) : Except Defect (List Char) := do
  checkCut .start start s
  return dropBytes start s

/-- The piece of a text from `start` to `stop`. -/
def cut (s : List Char) (start stop : Nat) : Except Defect (List Char) := do
  checkCut .start start s
  checkCut .stop stop s
  return takeBytes (stop - start) (dropBytes start s)

end GraphReplay.Text
