import GraphReplay.Log.Filter
import GraphReplay.Log.Installation
import GraphReplay.Log.Line

/-!
# The library that printing runs on

`standard` is what the program is run with: filters as in `Log.Filter`, lines as in
`Log.Line`, and one place for a receiver. Lines for people carry terminal codes
unless the environment asks for none.
-/

namespace GraphReplay.Log

/-- Prints the notes that a filter lets through. -/
structure Printer where
  filter : Filter
  layout : Layout
  colored : Bool
  deriving DecidableEq, Repr

/-- What notes become. -/
def Printer.lines (p : Printer) (notes : List Note) : List Line :=
  (notes.filter p.filter.passes).flatMap (Line.ofNote p.layout p.colored)

/-- Who receives notes. -/
inductive Receiver
  | printer (p : Printer)
  /-- Somebody else's, who prints nothing. -/
  | silent
  deriving DecidableEq, Repr

/-- What is printed of some notes. -/
def Receiver.lines : Receiver → List Note → List Line
  | .printer p, notes => p.lines notes
  | .silent, _ => []

/-- Whether lines for people carry terminal codes. -/
def coloredIn (env : Environment) : Bool :=
  match env "NO_COLOR" with
  | some s => s.isEmpty
  | none => true

/-- A gate that is closed or not. -/
def once : Once where
  Gate := Bool
  new := false
  closed := id
  pass g work s :=
    if g then (.ok (), s, g)
    else
      match work s with
      | (.ok (), s) => (.ok (), s, true)
      | (.error d, s) => (.error d, s, false)

/-- The library that printing runs on. -/
def standard : Library where
  toOnce := once
  Filter := Filter
  FilterError := FilterError
  filterMessage := FilterError.message
  readFilter := Filter.parse
  Receiver := Receiver
  printer env layout filter := .printer { filter, layout, colored := coloredIn env }
  Line := Line
  lines := Receiver.lines
  Place := Option Receiver
  holder? := id
  fill r
    | some r' => (false, some r')
    | none => (true, some r)
  refusal := "a global default trace dispatcher has already been set"

/-- Why printing cannot be set up. -/
abbrev SetupError := standard.SetupError

/-- The printing of a process. -/
abbrev Installation := standard.Installation

end GraphReplay.Log
