import GraphReplay.Workspace.Basic

/-!
# Taking a workspace down

The stream is brought to rest, then the executors are destroyed, then the
graphs, in the order of their keys. The executors may be destroyed in any order;
it is an argument here. The first device error ends this.

After that, and also after a failure, the contexts are released and the two
allocations are given back, the stack first.
-/

namespace GraphReplay.Workspace

open Procedure

/-- Destroy some executors in turn. -/
def destroyExecutors : List (Key × Executor) → Procedure Unit
  | [] => return
  | (_, e) :: rest => do
    callDevice .destroyExecutor (·.destroyExecutor e)
    destroyExecutors rest

/-- Destroy some graphs in turn. -/
def destroyGraphs : List (Key × Graph) → Procedure Unit
  | [] => return
  | (_, g) :: rest => do
    callDevice .destroyGraph (·.destroyGraph g)
    destroyGraphs rest

/-- Bring the stream to rest and destroy what was built, the executors in the order of
    `executors`. -/
def dismantle (executors : List (Key × Executor)) : Procedure Unit := do
  note .tearingDown
  callDevice .synchronize Device.synchronize
  note (.destroyingExecutors (← get).executors.size)
  destroyExecutors executors
  let w ← get
  note (.destroyingGraphs w.graphs.size)
  destroyGraphs w.graphs.entries

/-- Give back the two allocations. -/
def releaseMemory (w : Workspace) : Device :=
  let d := match w.stack with
    | some s => w.device.free s.backing
    | none => w.device
  match w.activations with
  | some a => d.free a.backing
  | none => d

/-- What is left of a workspace. -/
structure Remains where
  device : Device
  /-- The contexts it released. -/
  contexts : List Context
  journal : List Log.Note
  deriving DecidableEq, Repr

/-- Take a workspace down, destroying its executors in the order of `executors`. A failure aborts,
    unless something else is being given up already (`unwinding`); then it is only told. -/
def dropInOrder (w : Workspace) (unwinding : Bool) (executors : List (Key × Executor)) :
    Except Abort Unit × Remains :=
  let (answer, w') := (dismantle executors).on w
  let remains (journal : List Log.Note) : Remains :=
    { device := w'.releaseMemory, contexts := w'.contexts.entries.map (·.2), journal }
  match answer, unwinding with
  | .error (.fatal e), true => (.ok (), remains (w'.journal ++ [.teardownFailed e]))
  | answer, _ => (answer, remains w'.journal)

/-- Take a workspace down. -/
def drop (w : Workspace) (unwinding : Bool) : Except Abort Unit × Remains :=
  w.dropInOrder unwinding w.executors.entries

end GraphReplay.Workspace
