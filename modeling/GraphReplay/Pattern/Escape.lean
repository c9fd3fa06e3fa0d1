import GraphReplay.Pattern.Mode

/-!
# Escapes

What can follow a backslash in a pattern. Every ASCII character that is neither a
letter nor a digit stands for itself, except the angle brackets; of the letters,
some stand for a control character, a class or an assertion. There are no
back-references, and no Unicode properties are known.
-/

namespace GraphReplay.Pattern

/-- What an escape stands for. -/
inductive Escape
  /-- A character; `byte` if it was given as two hexadecimal digits. -/
  | literal (c : Char) (byte : Bool)
  /-- The class of digits, of blanks or of the characters of words. -/
  | perl (negated : Bool)
  /-- The beginning or the end of the text. -/
  | anchor
  /-- The beginning or the end of a word, either of them, or none. -/
  | wordBoundary
  deriving DecidableEq, Repr

namespace Escape

/-- The value of a hexadecimal digit. -/
def hexDigit? (c : Char) : Option Nat :=
  if c.isDigit then some (c.toNat - '0'.toNat)
  else if 'a' ≤ c ∧ c ≤ 'f' then some (c.toNat - 'a'.toNat + 10)
  else if 'A' ≤ c ∧ c ≤ 'F' then some (c.toNat - 'A'.toNat + 10)
  else none

/-- Read a number of hexadecimal digits. -/
def readHex (m : Mode) : (digits value : Nat) → List Char → Option (Nat × List Char)
  | 0, value, s => some (value, s)
  | _ + 1, _, [] => none
  | digits + 1, value, c :: s =>
    match hexDigit? c with
    | none => none
    | some d => readHex m digits (16 * value + d) (m.skip s)

/-- Read the character with the code point of some hexadecimal digits. -/
def readCodePoint (m : Mode) (digits : Nat) (s : List Char) : Option (Escape × List Char) :=
  match readHex m digits 0 (m.skip s) with
  | none => none
  | some (n, rest) => if n.isValidChar then some (.literal (Char.ofNat n) (digits = 2), rest) else none

/-- Whether a character stands for itself behind a backslash. -/
def standsForItself (c : Char) : Bool := c.toNat < 128 && !c.isAlphanum && c ∉ ['<', '>']

/-- Read what follows a backslash. -/
def read? (m : Mode) : List Char → Option (Escape × List Char)
  | [] => none
  | c :: s =>
    if standsForItself c then some (.literal c false, s)
    else match c with
    | 'x' => readCodePoint m 2 s
    | 'u' => readCodePoint m 4 s
    | 'U' => readCodePoint m 8 s
    | 'd' | 's' | 'w' => some (.perl false, s)
    | 'D' | 'S' | 'W' => some (.perl true, s)
    | 'a' => some (.literal '\x07' false, s)
    | 'f' => some (.literal '\x0c' false, s)
    | 't' => some (.literal '\t' false, s)
    | 'n' => some (.literal '\n' false, s)
    | 'r' => some (.literal '\r' false, s)
    | 'v' => some (.literal '\x0b' false, s)
    | 'A' | 'z' => some (.anchor, s)
    | 'b' | 'B' | '<' | '>' => some (.wordBoundary, s)
    | _ => none

end Escape

end GraphReplay.Pattern
