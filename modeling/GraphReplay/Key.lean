/-!
# Keys

A graph is recorded for a model *name* and a batch size. Keys are ordered by
name, names by their code points, and then by batch size; graphs are built in
this order.
-/

namespace GraphReplay

/-- One registered configuration. -/
structure Key where
  name : String
  batchSize : Nat
  deriving DecidableEq, Repr

namespace Key

instance : LT Key where
  lt a b := a.name < b.name ∨ a.name = b.name ∧ a.batchSize < b.batchSize

instance : DecidableLT Key := fun a b =>
  inferInstanceAs (Decidable (a.name < b.name ∨ a.name = b.name ∧ a.batchSize < b.batchSize))

/-- The key as text, `name@bsN`. -/
def render (k : Key) : String := k.name ++ "@bs" ++ toString k.batchSize

/-- Put a key into a list of distinct keys in increasing order, unless it is there. -/
def insertSorted (k : Key) : List Key → List Key
  | [] => [k]
  | j :: rest =>
    if k < j then k :: j :: rest
    else if k = j then j :: rest
    else j :: insertSorted k rest

/-- The keys of a list in increasing order, each once. -/
def sortDistinct (keys : List Key) : List Key := keys.foldr insertSorted []

end Key

end GraphReplay
