import GraphReplay.Word

/-!
# Models

A model is known by its sizes: the bytes of each of its tensors per batch item,
the largest batch, its scratch memory, its weights. Several handles may lead to
one model object; `label` tells objects apart, whatever else they have in
common.

What a model *reports* need not be what it *does*. A `Report` stands in front of
a model and answers some questions in its place; the contexts that the model
makes go by the facts, not by the report. Weights are never reported through.
-/

namespace GraphReplay

/-- One input or output tensor of a model. -/
structure Binding where
  name : String
  /-- The bytes of one batch item. -/
  bytesPerItem : Nat
  isInput : Bool
  deriving DecidableEq, Repr

/-- The bytes of `batchSize` items. -/
def Binding.bytesFor (b : Binding) (batchSize : Nat) : Except Defect Nat :=
  Word.mul b.bytesPerItem batchSize

/-- Answers given in place of a model's own. -/
structure Report where
  maxBatchSize : Option Nat := none
  bindingsCount : Option Nat := none
  bindingMemory : Option Nat := none
  deriving DecidableEq, Repr

/-- A model object. -/
structure Model where
  /-- What tells this object apart from all others, and what its `Ledger` is kept under. Whatever
      stands in front of an object shares the ledger of that object. It has the object's label and a
      `report`, by which the two are told apart. Or else it has a label of its own, and its ledger
      is looked up under the label of the object behind it. -/
  label : String
  maxBatchSize : Nat
  bindings : List Binding
  activations : Nat := 0
  weights : Nat := 0
  /-- No context can be created. -/
  failsContext : Bool := false
  /-- Its contexts refuse every launch. -/
  failsEnqueue : Bool := false
  report : Option Report := none
  deriving DecidableEq, Repr

namespace Model

/-- The largest batch, as reported. -/
def reportedMaxBatchSize (m : Model) : Nat := (m.report.bind (·.maxBatchSize)).getD m.maxBatchSize

/-- The number of bindings, as reported. -/
def reportedBindingsCount (m : Model) : Nat :=
  (m.report.bind (·.bindingsCount)).getD m.bindings.length

/-- The bytes of the weights, as reported: none behind a report. -/
def reportedWeights (m : Model) : Nat := if m.report.isSome then 0 else m.weights

/-- The binding at `index`. -/
def binding (m : Model) (index : Nat) : Except Defect Binding :=
  match m.bindings[index]? with
  | some b => .ok b
  | none => .error (.outOfBounds m.bindings.length index)

/-- The bytes of some bindings at `batchSize` items each, on top of `total`. -/
def addBindingMemory (batchSize total : Nat) : List Binding → Except Defect Nat
  | [] => .ok total
  | b :: rest => do
    let bytes ← b.bytesFor batchSize
    addBindingMemory batchSize (← Word.add total bytes) rest

/-- The bytes of all bindings at the largest batch. -/
def bindingMemory (m : Model) : Except Defect Nat := addBindingMemory m.maxBatchSize 0 m.bindings

/-- The bytes of all bindings, as reported. -/
def reportedBindingMemory (m : Model) : Except Defect Nat :=
  match m.report.bind (·.bindingMemory) with
  | some bytes => .ok bytes
  | none => m.bindingMemory

end Model

end GraphReplay
