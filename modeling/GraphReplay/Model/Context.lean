import GraphReplay.Model.Basic
import GraphReplay.Device.Basic

/-!
# Execution contexts

A context runs one model: it is pointed at scratch memory once and then turns a
batch size and one address per binding into an operation. Its kernel is named
after the name that the model had when the context was created.

The name of a model object, and the count of its contexts, change over time and
belong to whoever owns the object; they are its `Ledger`.
-/

namespace GraphReplay

/-- Why a model or one of its contexts refuses. -/
inductive ModelError
  /-- A context cannot be created. -/
  | noContext
  /-- A launch came before the scratch memory was set. -/
  | noDeviceMemory
  | bindingCount (expected actual : Nat)
  | batchTooLarge (batchSize limit : Nat)
  | rejected (kernel : String)
  deriving DecidableEq, Repr

/-- The words of a model's refusal. -/
def ModelError.message : ModelError → String
  | .noContext => "failed to create execution context: synthetic context creation failure"
  | .noDeviceMemory => "device memory was not set before enqueue"
  | .bindingCount expected actual =>
    "expected " ++ toString expected ++ " bindings, got " ++ toString actual
  | .batchTooLarge batchSize limit =>
    "enqueue failed: batch size " ++ toString batchSize ++ " exceeds " ++ toString limit
  | .rejected kernel => "enqueue failed: " ++ kernel ++ " rejected the launch"

/-- An execution context. -/
structure Context where
  /-- The model it was created from. -/
  model : Model
  kernel : String
  /-- Its scratch memory, once set. -/
  scratch : Option Address := none
  deriving DecidableEq, Repr

namespace Context

/-- Point the context at its scratch memory. -/
def setScratch (c : Context) (base : Address) : Context := { c with scratch := some base }

/-- The operation for one inference of `batchSize` items on the tensors at `bindings`. -/
def operation (c : Context) (batchSize : Nat) (bindings : List Address) : Except ModelError Op :=
  match c.scratch with
  | none => .error .noDeviceMemory
  | some scratch =>
    if bindings.length ≠ c.model.bindings.length then
      .error (.bindingCount c.model.bindings.length bindings.length)
    else if c.model.maxBatchSize < batchSize then
      .error (.batchTooLarge batchSize c.model.maxBatchSize)
    else if c.model.failsEnqueue then .error (.rejected c.kernel)
    else .ok { kernel := c.kernel, batchSize, args := bindings ++ [scratch] }

end Context

/-- What changes about a model object. -/
structure Ledger where
  displayName : String := ""
  contextsCreated : Nat := 0
  /-- The contexts created and not yet released. -/
  contextsLive : Nat := 0
  deriving DecidableEq, Repr

namespace Ledger

/-- Give the model another name. -/
def rename (l : Ledger) (name : String) : Ledger := { l with displayName := name }

/-- Release one context. Each is released once, so one is live when this happens. -/
def release (l : Ledger) : Ledger := { l with contextsLive := l.contextsLive - 1 }

end Ledger

/-- Create a context of a model. -/
def Model.createContext (m : Model) (l : Ledger) : Except ModelError (Context × Ledger) :=
  if m.failsContext then .error .noContext
  else
    .ok ({ model := m, kernel := l.displayName ++ "::forward" },
      { l with contextsCreated := l.contextsCreated + 1, contextsLive := l.contextsLive + 1 })

end GraphReplay
