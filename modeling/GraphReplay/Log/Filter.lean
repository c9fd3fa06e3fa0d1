import GraphReplay.Log.Directive

/-!
# Filters

A filter is a list of directives, separated by commas. A note goes by the most
particular directive that speaks of it: the one with the longest target, and of
those with the same target one that asks for a field. Of two that ask for the
same, the later one counts. A note that no directive speaks of is not let
through.

The library that printing runs on (`standard`) reads filters in this way.
-/

namespace GraphReplay.Log

/-- What is let through. -/
structure Filter where
  directives : List Directive
  deriving DecidableEq, Repr

namespace Filter

/-- The pieces between commas. -/
def pieces (s : List Char) : List (List Char) := s.splitOn ','

/-- Read a filter. Empty pieces are skipped; a filter of no other pieces lets nothing through. -/
def parse (s : String) : Reading Filter := do
  return ⟨← ((pieces s.toList).filter (¬ ·.isEmpty)).mapM Directive.parse⟩

/-- The more particular of two directives, the second one if neither is. -/
def moreParticular (best : Option Directive) (d : Directive) : Option Directive :=
  match best with
  | some b => if d.lessParticular b then some b else some d
  | none => some d

/-- The directive that a note goes by. -/
def directive? (f : Filter) (n : Note) : Option Directive :=
  (f.directives.filter (·.covers n)).foldl moreParticular none

/-- Whether a note is let through. -/
def passes (f : Filter) (n : Note) : Bool :=
  match f.directive? n with
  | some d => n.level.depth ≤ d.depth
  | none => false

end Filter

end GraphReplay.Log
