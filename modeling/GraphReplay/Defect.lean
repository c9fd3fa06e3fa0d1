import GraphReplay.Text.Quoted

/-!
# Defects

Two kinds of trouble end an operation without a value. An *error* is an answer:
the caller sees it and carries on. A *defect* is not: the arithmetic left the
machine words, an index missed its list, a text was cut inside a character, or
something the program relies on does not hold. No caller handles a defect; the
operation stops where it is, and what it did before stays done.
-/

namespace GraphReplay

/-- One of the two ends of a piece that is cut out of a text. -/
inductive CutEnd
  | start
  | stop
  deriving DecidableEq, Repr

/-- What stops an operation that no caller can mend. -/
inductive Defect
  /-- A sum does not fit in a word. -/
  | addOverflow
  /-- A product does not fit in a word. -/
  | mulOverflow
  /-- A remainder was asked for a divisor of zero. -/
  | zeroDivisor
  /-- A list of `length` entries was asked for the entry at `index`. -/
  | outOfBounds (length index : Nat)
  /-- A list was asked for with room for more entries than memory can hold. -/
  | capacityOverflow
  /-- A text was cut at a position inside the character `c`, which begins at `first`. -/
  | splitCharacter (e : CutEnd) (position : Nat) (c : Char) (first : Nat)
  /-- Something that always holds did not. -/
  | broken (expectation : String)
  deriving DecidableEq, Repr

/-- The name of an end of a piece. -/
def CutEnd.name : CutEnd → String
  | .start => "start"
  | .stop => "end"

/-- The words of a defect. -/
def Defect.message : Defect → String
  | .addOverflow => "attempt to add with overflow"
  | .mulOverflow => "attempt to multiply with overflow"
  | .zeroDivisor => "attempt to calculate the remainder with a divisor of zero"
  | .outOfBounds length index =>
    "index out of bounds: the len is " ++ toString length ++ " but the index is " ++ toString index
  | .capacityOverflow => "capacity overflow"
  | .splitCharacter e position c first =>
    e.name ++ " byte index " ++ toString position ++ " is not a char boundary; it is inside '" ++
      String.ofList (Text.Quoted.encodeChar c) ++ "' (bytes " ++ toString first ++ ".." ++
      toString (first + c.utf8Size) ++ " of string)"
  | .broken expectation => expectation

/-- Why an operation gave no value: an error for its caller, or a defect. -/
inductive Failure (ε : Type)
  | error (e : ε)
  | defect (d : Defect)
  deriving DecidableEq, Repr

/-- Arithmetic inside an operation that has errors of its own: its defects stop the operation. -/
instance {ε : Type} : MonadLift (Except Defect) (Except (Failure ε)) where
  monadLift x := x.mapError .defect

end GraphReplay
