import GraphReplay.Pattern.CharClass
import GraphReplay.Text.Alphanumeric

/-!
# Checking patterns

Which patterns can be used. A pattern is read from the left, with the groups that
are open kept on a stack. Of what was read only the shape is kept: the height of
each part, and whether it can be repeated.

Two things are refused that can be read. A pattern may not nest too deeply. And
it may not ask for the boundary of a word of Unicode characters, which the kind of
automaton that patterns are matched by cannot see.

Repetitions between braces do not exist here: a pattern stands between braces
itself, and its first closing brace ends it.
-/

namespace GraphReplay

/-- Why a pattern cannot be used. -/
inductive PatternError
  | malformed
  | unicodeWordBoundary
  deriving DecidableEq, Repr

/-- The words of a pattern that cannot be used. -/
def PatternError.message : PatternError → String
  | .malformed => "error building NFA"
  | .unicodeWordBoundary =>
    "unsupported regex feature for DFAs: cannot build DFAs for regexes with Unicode word " ++
      "boundaries; switch to ASCII word boundaries, or heuristically enable Unicode word " ++
      "boundaries or use a different regex engine"

namespace Pattern

/-- What is kept of a part of a pattern. -/
structure Part where
  height : Nat := 0
  repeatable : Bool := true
  deriving DecidableEq, Repr

/-- What is read of a group that is not closed yet. Later parts come first. -/
structure Group where
  /-- The heights of the alternatives that are complete. -/
  alternatives : List Nat := []
  /-- The parts of the alternative that is being read. -/
  parts : List Part := []
  deriving DecidableEq, Repr

namespace Group

/-- Add a part. -/
def add (g : Group) (p : Part) : Group := { g with parts := p :: g.parts }

/-- The heights of the alternatives, with the one that is being read. -/
def heights (g : Group) : List Nat := rowHeight (g.parts.map Part.height) :: g.alternatives

/-- The height of what is read. -/
def height (g : Group) : Nat := rowHeight g.heights

/-- Begin another alternative. -/
def alternate (g : Group) : Group := { alternatives := g.heights }

/-- Repeat the last part, if there is one that can be repeated. -/
def repeatLast? (g : Group) : Option Group :=
  match g.parts with
  | p :: parts =>
    if p.repeatable then some { g with parts := { height := p.height + 1 } :: parts } else none
  | [] => none

end Group

/-- What is read of a pattern. -/
structure Progress where
  mode : Mode := {}
  group : Group := {}
  /-- The groups around it, with the modes that come back when they do. -/
  outer : List (Group × Mode) := []
  /-- The names of groups. -/
  names : List (List Char) := []
  /-- Whether the boundary of a word of Unicode characters was asked for. -/
  unicodeWordBoundary : Bool := false
  deriving DecidableEq, Repr

namespace Progress

/-- Add a part to the group. -/
def add (p : Progress) (part : Part) : Progress := { p with group := p.group.add part }

/-- Open a group with a mode of its own. -/
def openGroup (p : Progress) (mode : Mode) : Progress :=
  { p with mode, group := {}, outer := (p.group, p.mode) :: p.outer }

/-- Close the group. -/
def closeGroup? (p : Progress) : Option Progress :=
  match p.outer with
  | (g, mode) :: outer => some { p with mode, group := g.add { height := p.group.height + 1 }, outer }
  | [] => none

end Progress

/-- Whether a character can stand in a text. Without case, Unicode letters are not known. -/
def admitsLiteral (m : Mode) (c : Char) (byte : Bool) : Bool :=
  if m.unicode then !m.caseless else !byte || c.toNat < 128

/-- Whether a text names a group. -/
def isGroupName : List Char → Bool
  | [] => false
  | c :: s =>
    (c = '_' || Text.isAlphabetic c) &&
      s.all fun c => c ∈ ['_', '.', '[', ']'] || Text.isAlphanumeric c

/-- Read the name of a group, which ends with `>`. No two groups have the same name. -/
def readName? (p : Progress) (s : List Char) : Option (Progress × List Char) :=
  let name := s.takeWhile (· ≠ '>')
  match s.dropWhile (· ≠ '>') with
  | _ :: rest =>
    if isGroupName name && name ∉ p.names then
      some ({ p.openGroup p.mode with names := name :: p.names }, rest)
    else none
  | [] => none

/-- Read what follows an opening parenthesis. -/
def readGroup? (p : Progress) (s : List Char) : Option (Progress × List Char) :=
  match p.mode.skip s with
  | '?' :: 'P' :: '<' :: rest => readName? p rest
  | '?' :: '<' :: rest => readName? p rest
  | '?' :: rest =>
    match p.mode.readFlags [] false false rest with
    | some (mode, .group, rest) => some (p.openGroup mode, rest)
    | some (mode, .directive, rest) => some ({ p with mode }.add { repeatable := false }, rest)
    | none => none
  | rest => some (p.openGroup p.mode, rest)

/-- Read an escape behind its backslash. -/
def readEscape? (p : Progress) (s : List Char) : Option (Progress × List Char) :=
  match Escape.read? p.mode s with
  | none => none
  | some (.literal c byte, rest) => if admitsLiteral p.mode c byte then some (p.add {}, rest) else none
  | some (.perl negated, rest) => if !p.mode.unicode && !negated then some (p.add {}, rest) else none
  | some (.anchor, rest) => some (p.add {}, rest)
  | some (.wordBoundary, rest) =>
    some ({ p with unicodeWordBoundary := p.unicodeWordBoundary || p.mode.unicode }.add {}, rest)

/-- Read one part, or what changes how the next ones are read. -/
def readPart? (p : Progress) : List Char → Option (Progress × List Char)
  | [] => none
  | c :: s =>
    match c with
    | '(' => readGroup? p s
    | ')' => p.closeGroup?.map fun p => (p, s)
    | '|' => some ({ p with group := p.group.alternate }, s)
    | '[' => (CharClass.read? p.mode s).map fun (height, rest) => (p.add { height }, rest)
    | '?' | '*' | '+' =>
      p.group.repeatLast?.map fun group =>
        ({ p with group }, if s.head? = some '?' then s.drop 1 else s)
    | '\x7b' => none
    | '\\' => readEscape? p s
    | '.' => if p.mode.unicode then some (p.add {}, s) else none
    | '^' | '$' => some (p.add {}, s)
    | c => if admitsLiteral p.mode c false then some (p.add {}, s) else none

/-- Read a pattern to its end. Every turn reads at least one character of the text, so as many turns
    as it has characters, and one to see the end, are enough. -/
def readAll (p : Progress) : (turns : Nat) → List Char → Option Progress
  | 0, _ => none
  | turns + 1, s =>
    match p.mode.skip s with
    | [] => if p.outer.isEmpty then some p else none
    | s => (readPart? p s).bind fun (p, rest) => readAll p turns rest

/-- How deeply a pattern may nest. -/
def heightLimit : Nat := 250

/-- Make sure that a pattern can be used. -/
def check (s : List Char) : Except PatternError Unit :=
  match readAll {} (s.length + 1) s with
  | none => .error .malformed
  | some p =>
    if heightLimit < p.group.height then .error .malformed
    else if p.unicodeWordBoundary then .error .unicodeWordBoundary
    else .ok ()

end Pattern

end GraphReplay
