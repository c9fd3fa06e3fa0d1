import GraphReplay.Pattern.Check

/-!
# Field tests

What a filter asks of a field: that it is there (`name`), or that it has a value
(`name=value`). A value is a number or a pattern; a second `=` ends it.
-/

namespace GraphReplay.Log

/-- What is asked of a field. -/
structure FieldTest where
  name : String
  value : Option String := none
  deriving DecidableEq, Repr

namespace FieldTest

/-- Whether a text is an exponent, or empty. -/
def isExponent : List Char → Bool
  | [] => true
  | c :: s =>
    let digits := if s.head?.any (· ∈ ['+', '-']) then s.drop 1 else s
    c ∈ ['e', 'E'] && !digits.isEmpty && digits.all Char.isDigit

/-- Whether a text is a number without a sign: a word, or digits with at most one point before,
    between or behind them, and an exponent or none. -/
def isUnsignedNumber (s : List Char) : Bool :=
  let whole := s.takeWhile Char.isDigit
  let rest := s.dropWhile Char.isDigit
  let point := rest.head? = some '.'
  let fraction := if point then (rest.drop 1).takeWhile Char.isDigit else []
  let rest := if point then (rest.drop 1).dropWhile Char.isDigit else rest
  String.ofList (s.map Char.toLower) ∈ ["inf", "infinity", "nan"] ||
    (!(whole ++ fraction).isEmpty && isExponent rest)

/-- Whether a text is a number. -/
def isNumber (s : List Char) : Bool :=
  isUnsignedNumber (if s.head?.any (· ∈ ['+', '-']) then s.drop 1 else s)

/-- Read `name` or `name=value`. -/
def read (s : List Char) : Except PatternError FieldTest := do
  let name := String.ofList (s.takeWhile (· ≠ '='))
  match s.dropWhile (· ≠ '=') with
  | [] => return { name }
  | _ :: rest =>
    let value := rest.takeWhile (· ≠ '=')
    unless isNumber value do Pattern.check value
    return { name, value := some (String.ofList value) }

end FieldTest

end GraphReplay.Log
