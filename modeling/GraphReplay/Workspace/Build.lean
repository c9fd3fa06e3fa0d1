import GraphReplay.Workspace.Basic

/-!
# Building the graphs

The build closes registration first, whatever comes of it. It makes the two
allocations from the plan and goes through the keys in order. For each key the
context is pointed at the scratch memory, the tensors of its name are laid out
on the stack unless that was done for an earlier key, one launch is captured,
and the captured graph is instantiated. Every batch size of a name works on the
same tensors.

The stack is reset after each key, so all models are laid out on the same
memory; that is sound for the reason that the scratch memory can be shared.

If a launch is refused, the capture is closed and what it recorded is destroyed,
so that the stream can be used to take the workspace down.
-/

namespace GraphReplay

/-- Push the first `count` of `bindings`, each for `batchSize` items. The last argument is how many
    were pushed before; a model that reports more bindings than it has runs out of them. What was
    pushed before a failure stays pushed. -/
def BindingStack.pushBindings (batchSize : Nat) (s : BindingStack) :
    Nat → List Binding → Nat → Except (Failure StackError) (List Address) × BindingStack
  | 0, _, _ => (.ok [], s)
  | _ + 1, [], pushed => (.error (.defect (.outOfBounds pushed pushed)), s)
  | count + 1, b :: rest, pushed =>
    match b.bytesFor batchSize with
    | .error d => (.error (.defect d), s)
    | .ok size =>
      match s.push size with
      | .error f => (.error f, s)
      | .ok (p, s') =>
        let (answer, s'') := s'.pushBindings batchSize count rest (pushed + 1)
        (answer.map (p :: ·), s'')

/-- How many addresses fit in one list: a block of memory ends below the middle of the address
    space, and an address takes eight bytes. -/
def addressListLimit : Nat := Word.limit / 2 / 8

/-- Lay out the bindings that `m` reports, each for the largest batch that it reports. Room for all
    their addresses is made first. -/
def BindingStack.layOut (s : BindingStack) (m : Model) :
    Except (Failure StackError) (List Address) × BindingStack :=
  if addressListLimit ≤ m.reportedBindingsCount then (.error (.defect .capacityOverflow), s)
  else s.pushBindings m.reportedMaxBatchSize m.reportedBindingsCount m.bindings 0

namespace Workspace

open Procedure

/-- Make the allocation for the tensors. -/
def allocateStack : Procedure Unit := do
  let w ← get
  let stack ← callDevice .allocateStack (BindingStack.create · w.plan.stack)
  note (.stackAllocated stack.base w.plan.stack)
  modify fun w => { w with stack := some stack }

/-- Make the allocation for the scratch memory, and tell where it begins. -/
def allocateActivations : Procedure Address := do
  let w ← get
  let space ← callDevice .allocateActivations (ActivationSpace.create · w.plan.activations)
  note (.activationsAllocated space.base w.plan.activations)
  modify fun w => { w with activations := some space }
  return space.base

/-- The entry under `k` of a table where it has to be. -/
def entryOf {κ α : Type} [DecidableEq κ] (table : Workspace → Table κ α) (expectation : String)
    (k : κ) : Procedure α := do
  match (table (← get)).find? k with
  | some a => return a
  | none => throw (.defect (.broken expectation))

/-- What is expected of a key that a table is indexed by. -/
def indexed : String := "no entry found for key"

/-- The context of `name`, pointed at the scratch memory. -/
def prepareContext (name : String) (scratch : Address) : Procedure Context := do
  let c ← entryOf (·.contexts) "every registered name has an execution context" name
  let c := c.setScratch scratch
  modify fun w => { w with contexts := w.contexts.insert name c }
  return c

/-- Lay out the tensors of `name`, unless they are known. -/
def layBindings (name : String) (m : Model) : Procedure Unit := do
  let w ← get
  match w.bindings.find? name, w.stack with
  | some _, _ => return
  | none, none => throw (.defect (.broken "the binding stack is allocated before the first graph"))
  | none, some s =>
    let (answer, s') := s.layOut m
    -- What was pushed stays pushed, also if a later binding did not fit.
    modify fun w => { w with stack := some s' }
    let ps ← liftExcept (answer.mapError (Abort.ofFailure (.stack name)))
    modify fun w => { w with bindings := w.bindings.insert name ps }

/-- The tensor addresses of `name`, laid out now unless they are known. -/
def placeBindings (name : String) (m : Model) : Procedure (List Address) := do
  layBindings name m
  entryOf (·.bindings) indexed name

/-- Close the open capture and destroy what it recorded, whatever the device says to either. -/
def abandonCapture : Procedure Unit := do
  let (answer, device) := (← get).device.endCapture
  match answer with
  | .ok g => modify fun w => { w with device := (device.destroyGraph g).2 }
  | .error (.error _) => modify fun w => { w with device }
  | .error (.defect d) =>
    modify fun w => { w with device }
    throw (.defect d)

/-- Capture one launch of a context at `key`. -/
def capture (mode : CaptureMode) (key : Key) (c : Context) (ps : List Address) : Procedure Graph := do
  callDevice .beginCapture (·.beginCapture mode)
  match c.operation key.batchSize ps with
  | .error e =>
    abandonCapture
    fail (.model key.name e)
  | .ok op => modify fun w => { w with device := w.device.enqueue op }
  callDevice .endCapture Device.endCapture

/-- Build the graph of one key. -/
def buildKey (mode : CaptureMode) (scratch : Address) (key : Key) (m : Model) : Procedure Unit := do
  note (.building key)
  let c ← prepareContext key.name scratch
  let ps ← placeBindings key.name m
  let graph ← capture mode key c ps
  -- The graph is kept before anything can fail, so that it can be destroyed.
  modify fun w =>
    { w with graphs := w.graphs.insert key graph, stack := w.stack.map BindingStack.reset }
  let kept ← entryOf (·.graphs) indexed key
  let executor ← callDevice .instantiate (·.instantiate kept)
  modify fun w => { w with executors := w.executors.insert key executor }

/-- Build the graphs of some keys in turn. -/
def buildKeys (mode : CaptureMode) (scratch : Address) : List (Key × Model) → Procedure Unit
  | [] => return
  | (key, m) :: rest => do
    buildKey mode scratch key m
    buildKeys mode scratch rest

/-- Make the two allocations and build the graphs of all registered keys. -/
def buildRegistered : Procedure Unit := do
  allocateStack
  let scratch ← allocateActivations
  let w ← get
  note (.captureMode w.device.captureMode)
  buildKeys w.device.captureMode scratch w.modelsByKey.entries
  let w ← get
  note (.built w.executors.size w.models.size w.plan)

/-- Build all graphs, once. Registration closes even if nothing is registered. -/
def buildAll : Procedure Unit := do
  if (← get).phase = .built then fail .alreadyBuilt
  modify fun w => { w with phase := .built }
  if (← get).models.entries.isEmpty then note .nothingRegistered else buildRegistered

/-- Build all graphs of a workspace. -/
def build (w : Workspace) : Except Abort Unit × Workspace := buildAll.on w

end Workspace

end GraphReplay
