import GraphReplay.Arena.Scratch
import GraphReplay.Arena.Stack
import GraphReplay.Key
import GraphReplay.Log.Note
import GraphReplay.Table

/-!
# Workspaces

A workspace owns a device and serves models on it. It lives in two phases. While
it is *registering*, models are added under names and batch sizes and the memory
plan grows. Building, which happens once, freezes the plan, makes the two
allocations and records one graph per key. From then on it only answers lookups:
the executor of a key, the tensor addresses of a name.

Three tables know the registered models, by name, by key, and the one context of
each name; the tables of graphs, executors and tensor addresses are filled by
the build. What happened is told in `journal`.
-/

namespace GraphReplay

/-- Where a workspace is in its life. -/
inductive Phase
  | registering
  | built
  deriving DecidableEq, Repr

/-- The name of a phase. -/
def Phase.name : Phase → String
  | .registering => "Registering"
  | .built => "Built"

/-- A workspace. -/
structure Workspace where
  device : Device
  planner : Planner
  phase : Phase := .registering
  /-- The registered models by name. -/
  models : Table String Model := {}
  /-- The registered models by key. -/
  modelsByKey : Table Key Model := {}
  /-- The context of each registered name. -/
  contexts : Table String Context := {}
  /-- The tensor addresses of each name, shared by its batch sizes. -/
  bindings : Table String (List Address) := {}
  /-- The recorded graphs, kept to be destroyed. -/
  graphs : Table Key Graph := {}
  /-- What lookups serve. -/
  executors : Table Key Executor := {}
  stack : Option BindingStack := none
  activations : Option ActivationSpace := none
  /-- What was told so far. -/
  journal : List Log.Note := []
  deriving DecidableEq, Repr

namespace Workspace

/-- A workspace on `device` whose allocations are multiples of `granularity`. -/
def ofDevice (device : Device) (granularity : Granularity) : Workspace :=
  { device, planner := { granularity }
    journal := [.creating device.alignment.bytes granularity] }

/-- A workspace on `device`, if its granularities can be used. -/
def create (device : Device) (granularity : Granularity) : Except ConfigError Workspace := do
  granularity.validate
  return ofDevice device granularity

/-- The sizes of the two allocations, as far as they are known. -/
def plan (w : Workspace) : Plan := w.planner.plan

/-- The registered keys, in order. -/
def keys (w : Workspace) : List Key := w.modelsByKey.keys

/-- Whether a model is registered under `name`. -/
def isRegistered (w : Workspace) (name : String) : Bool := w.models.has name

/-- Whether there is a graph to serve for `key`. -/
def isAvailable (w : Workspace) (key : Key) : Bool := w.executors.has key

/-- The executor that serves `key`. -/
def executor (w : Workspace) (key : Key) : Except LookupError Executor :=
  match w.executors.find? key with
  | some e => .ok e
  | none => .error (.graphNotFound key.name key.batchSize)

/-- The tensor addresses in every graph of `name`, one per binding. -/
def addresses (w : Workspace) (name : String) : Except LookupError (List Address) :=
  match w.bindings.find? name with
  | some ps => .ok ps
  | none => .error (.bindingsNotFound name)

/-- Append to the journal. -/
def tell (w : Workspace) (n : Log.Note) : Workspace := { w with journal := w.journal ++ [n] }

/-- An operation on a workspace: it answers or aborts, and what it did stays done. -/
abbrev Procedure := ExceptT Abort (StateM Workspace)

namespace Procedure

/-- Tell a note. -/
def note (n : Log.Note) : Procedure Unit := modify (·.tell n)

/-- Give up with a fatal error. -/
def fail {α : Type} (e : FatalError) : Procedure α := throw (.fatal e)

/-- Call the device; an error of the device is fatal in `task`. -/
def callDevice {α : Type} (task : DeviceTask) (call : Device → Device.Answer α) : Procedure α := do
  let (answer, device) := call (← get).device
  modify fun w => { w with device }
  liftExcept (answer.mapError (Abort.ofFailure (.device task)))

/-- Run a procedure on a workspace. -/
def on {α : Type} (x : Procedure α) (w : Workspace) : Except Abort α × Workspace := x.run.run w

end Procedure

/-- Wait for all work on the stream of the device. -/
def synchronize (w : Workspace) : Except Abort Unit × Workspace :=
  (Procedure.callDevice .synchronize Device.synchronize).on w

/-- Replay an executor on the device. -/
def launch (w : Workspace) (e : Executor) : Except (Failure DeviceError) Unit × Workspace :=
  let (answer, device) := w.device.launch e
  (answer, { w with device })

end Workspace

end GraphReplay
