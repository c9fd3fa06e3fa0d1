/-!
# Levels

How much a note matters, from errors down to traces. A printer set to a level
prints that level and all above it.
-/

namespace GraphReplay.Log

/-- The weight of a note. -/
inductive Level
  | error
  | warn
  | info
  | debug
  | trace
  deriving DecidableEq, Repr

namespace Level

/-- The level used where none is chosen. -/
def default : Level := .info

/-- How far down a level is: errors are 1, traces 5. -/
def depth : Level → Nat
  | .error => 1
  | .warn => 2
  | .info => 3
  | .debug => 4
  | .trace => 5

/-- The name of a level as a word of a filter. -/
def word : Level → String
  | .error => "error"
  | .warn => "warn"
  | .info => "info"
  | .debug => "debug"
  | .trace => "trace"

/-- The name of a level as a choice. -/
def name : Level → String
  | .error => "Error"
  | .warn => "Warn"
  | .info => "Info"
  | .debug => "Debug"
  | .trace => "Trace"

/-- The name of a level in a line. -/
def tag : Level → String
  | .error => "ERROR"
  | .warn => "WARN"
  | .info => "INFO"
  | .debug => "DEBUG"
  | .trace => "TRACE"

/-- All levels. -/
def all : List Level := [.error, .warn, .info, .debug, .trace]

/-- The level that a word chooses, in any case of its letters. Besides the words of filters,
    `warning` is understood. The words are ASCII, and no other letter has one of theirs as its
    lower case, so lowering ASCII letters is enough. -/
def parse? (s : String) : Option Level :=
  let w := s.map Char.toLower
  if w = "warning" then some .warn else all.find? (·.word = w)

end Level

/-- The shape of a printed line. -/
inductive Format
  | human
  | json
  deriving DecidableEq, Repr

namespace Format

/-- The format used where none is chosen. -/
def default : Format := .human

/-- The name of a format as a choice. -/
def name : Format → String
  | .human => "Human"
  | .json => "Json"

/-- The format that a word chooses, in any case of its letters. -/
def parse? (s : String) : Option Format :=
  let w := s.map Char.toLower
  if w ∈ ["human", "pretty", "console"] then some .human
  else if w ∈ ["json", "structured"] then some .json
  else none

end Format

end GraphReplay.Log
