import GraphReplay.Pattern.Escape

/-!
# Character classes

A class stands between brackets. It is a union of characters, ranges, classes with
a name (`[:alpha:]`) and classes between brackets; unions are combined by `&&`,
`--` and `~~`, from the left. A `^` behind the opening bracket negates the class.
The dashes that follow stand for themselves, and so does a closing bracket if
nothing was read before it.

Of a class, only its height is kept: how deeply it nests. A union of one item is
as high as the item, and an empty one has no height.
-/

namespace GraphReplay.Pattern

/-- The height of a row of parts, one of which is as good as no row. -/
def rowHeight : List Nat → Nat
  | [] => 0
  | [h] => h
  | hs => hs.foldl max 0 + 1

namespace CharClass

/-- What is read of a class that is not closed yet. -/
structure Bracket where
  /-- The height of what stands left of the last operator. -/
  left : Option Nat := none
  /-- The heights of the items since then. -/
  items : List Nat := []
  /-- Whether characters that would have a meaning later still stand for themselves. -/
  opening : Bool := true
  deriving DecidableEq, Repr

namespace Bracket

/-- The height of what is read. -/
def height (b : Bracket) : Nat :=
  match b.left with
  | none => rowHeight b.items
  | some h => max h (rowHeight b.items) + 1

/-- Add an item. -/
def add (b : Bracket) (height : Nat) : Bracket :=
  { b with items := height :: b.items, opening := false }

/-- Read an operator: what was read becomes its left side. -/
def operate (b : Bracket) : Bracket := { left := some b.height, opening := false }

end Bracket

/-- Whether a character can be an item. Without Unicode, it has to be ASCII; with Unicode, case
    has to count. -/
def admits (m : Mode) (c : Char) : Bool := if m.unicode then !m.caseless else c.toNat < 128

/-- The names of classes. -/
def names : List String :=
  ["alnum", "alpha", "ascii", "blank", "cntrl", "digit", "graph", "lower", "print", "punct", "space",
    "upper", "word", "xdigit"]

/-- Read a class with a name, behind its bracket. Whether it is negated comes back. -/
def readNamed? : List Char → Option (Bool × List Char)
  | ':' :: s =>
    let negated := s.head? = some '^'
    let s := if negated then s.drop 1 else s
    match s.dropWhile (· ≠ ':') with
    | ':' :: ']' :: rest =>
      if String.ofList (s.takeWhile (· ≠ ':')) ∈ names then some (negated, rest) else none
    | _ => none
  | _ => none

/-- Read a character or a class with a letter. -/
def readItem? (m : Mode) : List Char → Option (Escape × List Char)
  | [] => none
  | '\\' :: s => Escape.read? m s
  | c :: s => some (.literal c false, s)

/-- Whether an item can stand in a class. The classes with a letter are not known with Unicode, and
    without, the negated ones hold more than ASCII. -/
def admitsItem (m : Mode) : Escape → Bool
  | .literal c _ => admits m c
  | .perl negated => !m.unicode && !negated
  | _ => false

/-- Read an item or a range. A dash makes a range unless a closing bracket or a dash follows. -/
def readRange? (m : Mode) (s : List Char) : Option (List Char) :=
  match readItem? m s with
  | none => none
  | some (item, rest) =>
    match m.skip rest with
    | '-' :: rest =>
      if m.peek? rest ∈ [some ']', some '-'] then
        if admitsItem m item then some ('-' :: rest) else none
      else
        match item, readItem? m (m.skip rest) with
        | .literal a _, some (.literal b _, rest) =>
          if a ≤ b && admits m a && admits m b then some rest else none
        | _, _ => none
    | rest => if admitsItem m item then some rest else none

/-- Read what follows an opening bracket. Without Unicode, a negated class would hold more than
    ASCII. -/
def readOpening? (m : Mode) (s : List Char) : Option (List Char) :=
  match m.skip s with
  | '^' :: rest => if m.unicode then some rest else none
  | rest => some rest

/-- Read a class, of which `b` is read and the brackets of `outer` are open around it. Its height
    comes back. Every turn reads at least one character of the text, so as many turns as it has
    characters are enough. -/
def readBrackets (m : Mode) :
    (turns : Nat) → Bracket → List Bracket → List Char → Option (Nat × List Char)
  | 0, _, _, _ => none
  | turns + 1, b, outer, s =>
    match b.opening, m.skip s with
    | true, '-' :: rest =>
      if admits m '-' then readBrackets m turns { b.add 0 with opening := true } outer rest else none
    | opening, ']' :: rest =>
      if opening && b.items.isEmpty then
        if admits m ']' then readBrackets m turns (b.add 0) outer rest else none
      else
        match outer with
        | [] => some (b.height + 1, rest)
        | parent :: outer => readBrackets m turns (parent.add (b.height + 1)) outer rest
    | _, '[' :: rest =>
      match readNamed? rest with
      | some (negated, rest) =>
        if (if m.unicode then !m.caseless else !negated) then readBrackets m turns (b.add 0) outer rest
        else none
      | none => (readOpening? m rest).bind (readBrackets m turns {} (b :: outer))
    | _, '&' :: '&' :: rest => readBrackets m turns b.operate outer rest
    | _, '-' :: '-' :: rest => readBrackets m turns b.operate outer rest
    | _, '~' :: '~' :: rest => readBrackets m turns b.operate outer rest
    | _, rest => (readRange? m rest).bind (readBrackets m turns (b.add 0) outer)

/-- Read a class behind its opening bracket. Its height comes back. -/
def read? (m : Mode) (s : List Char) : Option (Nat × List Char) :=
  (readOpening? m s).bind fun rest => readBrackets m (rest.length + 1) {} [] rest

end CharClass

end GraphReplay.Pattern
