import GraphReplay.Text.Invisible

/-!
# Quoted text

Text between double quotes in which every character can be seen. The quote, the
backslash and four controls are written with a letter after a backslash; other
characters without a glyph of their own are written as a backslash, a `u` and
their code point in hexadecimal between braces.
-/

namespace GraphReplay.Text.Quoted

/-- The letter that stands for a character after a backslash. -/
def letter? : Char → Option Char
  | '\x00' => some '0'
  | '\t' => some 't'
  | '\r' => some 'r'
  | '\n' => some 'n'
  | '\\' => some '\\'
  | '"' => some '"'
  | _ => none

/-- A character by its code point. -/
def codePoint (c : Char) : List Char :=
  ['\\', 'u', '\x7b'] ++ Nat.toDigits 16 c.toNat ++ ['\x7d']

/-- What is written for one character. -/
def encodeChar (c : Char) : List Char :=
  match letter? c with
  | some l => ['\\', l]
  | none => if isInvisible c then codePoint c else [c]

/-- The text between quotes. -/
def encode (s : String) : String :=
  String.ofList ('"' :: s.toList.flatMap encodeChar ++ ['"'])

end GraphReplay.Text.Quoted
