import GraphReplay.Log.Library

/-!
# Setting up the printing of notes

The first attempt to set up printing is the only one in a process: whatever answer
it gets, later attempts succeed and change nothing. Until a receiver is there, notes
are lost.

What is printed is chosen by a configuration and by the filter in the environment,
which goes before the level.
-/

namespace GraphReplay.Log.Library

variable (L : Library)

/-- Why printing cannot be set up. -/
inductive SetupError
  | invalidFilter (e : L.FilterError)
  | alreadyInstalled

/-- The printing of a process. -/
structure Installation where
  /-- The place for a receiver. -/
  receiver : L.Place
  /-- Whether an attempt to set up printing was made. -/
  gate : L.Gate := L.new

/-- What an attempt to set up printing is answered. -/
abbrev Answer := Except (Failure L.SetupError) Unit

variable {L}

/-- The words of a failed set-up. -/
def SetupError.message : L.SetupError → String
  | .invalidFilter e => "invalid log filter: " ++ L.filterMessage e
  | .alreadyInstalled => "a global subscriber is already installed: " ++ L.refusal

variable (L) in
/-- The filter of the environment, unless that is absent or empty, and else the level. -/
def filterFor (env : Environment) (level : Level) : Except (Failure L.FilterError) L.Filter :=
  match env "RUST_LOG" with
  | some text => if text.isEmpty then L.readFilter level.word else L.readFilter text
  | none => L.readFilter level.word

/-- Fill the place for a receiver. -/
def install (place : L.Place) (env : Environment) (c : Config) : L.Answer × L.Place :=
  match L.filterFor env c.level with
  | .error (.defect d) => (.error (.defect d), place)
  | .error (.error e) => (.error (.error (.invalidFilter e)), place)
  | .ok filter =>
    match L.fill (L.printer env c.layout filter) place with
    | (true, place) => (.ok (), place)
    | (false, place) => (.error (.error .alreadyInstalled), place)

/-- Fill the place for a receiver and keep the answer; a defect goes on. -/
def attempt (env : Environment) (c : Config) :
    Except L.SetupError Unit × L.Place → Except Defect Unit × Except L.SetupError Unit × L.Place
  | (answer, place) =>
    match install place env c with
    | (.ok (), place) => (.ok (), .ok (), place)
    | (.error (.error e), place) => (.ok (), .error e, place)
    | (.error (.defect d), place) => (.error d, answer, place)

namespace Installation

/-- Set up printing. Only the first attempt counts; one that a defect cuts short is none. -/
def setUp (p : L.Installation) (env : Environment) (c : Config) : L.Answer × L.Installation :=
  match L.pass p.gate (attempt env c) (.ok (), p.receiver) with
  | (.ok (), (answer, receiver), gate) => (answer.mapError .error, { receiver, gate })
  | (.error d, (_, receiver), gate) => (.error (.defect d), { receiver, gate })

/-- What is printed of some notes. -/
def lines (p : L.Installation) (notes : List Note) : List L.Line :=
  match L.holder? p.receiver with
  | some r => L.lines r notes
  | none => []

end Installation

end GraphReplay.Log.Library
