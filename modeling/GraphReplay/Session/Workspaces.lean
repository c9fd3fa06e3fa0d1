import GraphReplay.Session.Basic
import GraphReplay.Workspace.Build
import GraphReplay.Workspace.Register

/-!
# Requests to workspaces

A workspace takes a free device and keeps it until it is taken down; the device
is retired with it. While it lives, its device can still be asked for by name.
-/

namespace GraphReplay.Session.Request

/-- Make a workspace on a free device and keep it. If its granularities are refused, the device
    is gone. -/
def newWorkspace (as device : String) (granularity : Granularity) : Request Value := do
  claim workspaces as
  let d ← fetchFreeDevice device
  match Workspace.create d granularity with
  | .error e =>
    modify (·.setCustody device (.retired d))
    throw (.config e)
  | .ok w =>
    modify fun s =>
      { (s.setCustody device (.inWorkspace as)).tell w.journal with
        workspaces := s.workspaces.insert as ⟨device, { w with journal := [] }⟩ }
    return .nothing

/-- Register a model. -/
def register (workspace model name : String) (batchSize : Nat) : Request Value := do
  let o ← fetch workspaces workspace
  let ⟨m, l⟩ ← fetch models model
  let (answer, l', w) := o.value.register l name m batchSize
  modify (·.modifyLedger model fun _ => l')
  settle workspace o answer w
  return .nothing

/-- Build the graphs of a workspace. -/
def build (workspace : String) : Request Value := do
  onWorkspace workspace Workspace.build
  return .nothing

/-- A workspace as it is. -/
def showWorkspace (workspace : String) : Request Value := do
  let ⟨_, w⟩ ← fetch workspaces workspace
  return .workspace w.phase w.plan (w.keys.map fun k => (k, w.isAvailable k))

/-- Whether a name is registered. -/
def isRegistered (workspace name : String) : Request Value := do
  let ⟨_, w⟩ ← fetch workspaces workspace
  return .flag (w.isRegistered name)

/-- Whether a key has a graph to serve. -/
def isAvailable (workspace : String) (key : Key) : Request Value := do
  let ⟨_, w⟩ ← fetch workspaces workspace
  return .flag (w.isAvailable key)

/-- The executor of a key. -/
def findExecutor (workspace : String) (key : Key) : Request Executor := do
  let ⟨_, w⟩ ← fetch workspaces workspace
  ofExcept .lookup (w.executor key)

/-- The executor of a key. -/
def showExecutor (workspace : String) (key : Key) : Request Value := do
  return .executor (← findExecutor workspace key)

/-- Keep a copy of the executor of a key. -/
def takeExecutor (as workspace : String) (key : Key) : Request Value := do
  claim executors as
  let e ← findExecutor workspace key
  modify fun s => { s with executors := s.executors.insert as e }
  return .nothing

/-- Replay the executor of a key. -/
def launchKey (workspace : String) (key : Key) : Request Value := do
  let o ← fetch workspaces workspace
  let e ← findExecutor workspace key
  let (answer, value) := o.value.launch e
  modify fun s => { s with workspaces := s.workspaces.insert workspace { o with value } }
  ofExcept (Refusal.ofFailure .device) answer
  return .nothing

/-- The tensor addresses of a name. -/
def showAddresses (workspace name : String) : Request Value := do
  let ⟨_, w⟩ ← fetch workspaces workspace
  return .addresses (← ofExcept .lookup (w.addresses name))

/-- The model object behind a name. -/
def showOwner (workspace name : String) : Request Value := do
  let ⟨_, w⟩ ← fetch workspaces workspace
  let s ← get
  return .owner <| (w.models.find? name).bind fun m =>
    (s.models.find? m.label).map fun o => (m.label, o.ledger.displayName)

/-- Wait for the stream of a workspace. -/
def synchronizeWorkspace (workspace : String) : Request Value := do
  onWorkspace workspace Workspace.synchronize
  return .nothing

/-- Take a workspace down; its device is retired. -/
def takeDown (workspace : String) (unwinding : Bool) : Request (Except Abort Unit) := do
  let ⟨device, w⟩ ← fetch workspaces workspace
  let (answer, remains) := w.drop unwinding
  modify fun s =>
    { ((s.setCustody device (.retired remains.device)).releaseContexts remains.contexts).tell
        remains.journal with workspaces := s.workspaces.erase workspace }
  return answer

/-- Take a workspace down. -/
def dropWorkspace (workspace : String) : Request Value := do
  match ← takeDown workspace false with
  | .ok () => return .nothing
  | .error a =>
    modify (·.tell a.notes)
    throw (.abort a)

/-- Take a workspace down while something else is being given up. -/
def dropWorkspaceUnwinding (workspace : String) : Request Value := do
  let _ ← takeDown workspace true
  throw .unwinding

end GraphReplay.Session.Request
