import GraphReplay.Workspace.Basic

/-!
# Commands

What can be asked of a session, what it answers, and why it refuses. Commands
name the things they work on; a command that makes something says the name to
keep it under (`as`).
-/

namespace GraphReplay.Session

/-- A request. -/
inductive Command
  /-- A request that cannot be read, for want of a field. -/
  | unreadable (field : String)
  /- Devices. -/
  | newDevice (as : String) (config : DeviceConfig)
  | dropDevice (device : String)
  | arm (device : String) (point : FaultPoint)
  | allocate (as device : String) (bytes : Nat)
  | free (buffer : String)
  /-- In the most permissive mode, unless one is given. -/
  | beginCapture (device : String) (mode : Option CaptureMode)
  | endCapture (as device : String)
  | enqueue (device : String) (op : Op)
  | instantiate (as device graph : String)
  | cloneExecutor (as executor : String)
  | launch (device executor : String)
  | destroyExecutor (device executor : String)
  | destroyGraph (device graph : String)
  | synchronize (device : String)
  | showStream (device : String)
  | probe (device : String)
  /- Memory. -/
  | newStack (as device : String) (capacity : Nat)
  | push (stack : String) (bytes : Nat)
  | resetStack (stack : String)
  | dropStack (stack : String)
  | showStack (stack : String)
  | newSpace (as device : String) (bytes : Nat)
  | dropSpace (space : String)
  /- Models and contexts. -/
  /-- The model is told apart by the name it is kept under. -/
  | newModel (as : String) (model : Model)
  | renameModel (model name : String)
  | showModel (model : String)
  | bindingMemory (model : String)
  | showBinding (model : String) (index : Nat)
  | newContext (as model : String)
  | setScratch (context : String) (base : Address)
  | runContext (context device : String) (batchSize : Nat) (bindings : List Address)
  | dropContext (context : String)
  /- Planners. -/
  | newPlanner (as : String) (granularity : Granularity)
  | clonePlanner (as planner : String)
  | requirements (planner model : String) (alignment : Nat) (andFold : Bool)
  | fold (planner : String) (needs : Requirements)
  | showPlan (planner : String)
  /- Workspaces. -/
  | newWorkspace (as device : String) (granularity : Granularity)
  | register (workspace model name : String) (batchSize : Nat)
  | build (workspace : String)
  | showWorkspace (workspace : String)
  | isRegistered (workspace name : String)
  | isAvailable (workspace : String) (key : Key)
  | showExecutor (workspace : String) (key : Key)
  | takeExecutor (as workspace : String) (key : Key)
  | launchKey (workspace : String) (key : Key)
  | showAddresses (workspace name : String)
  | showOwner (workspace name : String)
  | synchronizeWorkspace (workspace : String)
  | dropWorkspace (workspace : String)
  /-- While something else is being given up. -/
  | dropWorkspaceUnwinding (workspace : String)
  deriving DecidableEq, Repr

/-- What a model says about itself. -/
structure ModelInfo where
  name : String
  maxBatchSize : Nat
  bindingsCount : Nat
  activations : Nat
  weights : Nat
  contextsCreated : Nat
  contextsLive : Nat
  deriving DecidableEq, Repr

/-- What a request gives. -/
inductive Value
  | nothing
  | device (alignment : Nat) (relaxedCapture : Bool) (mode : CaptureMode)
  | buffer (b : Buffer)
  | graph (g : Graph)
  | executor (e : Executor)
  | stream (capturing : Bool) (executed : List Op)
  | probe (allocations events : Nat)
  | stack (s : BindingStack)
  | space (a : ActivationSpace)
  | model (info : ModelInfo)
  | bytes (n : Nat)
  | binding (b : Binding)
  | requirements (r : Requirements)
  | plan (p : Plan)
  /-- The phase, the plan, and the keys with whether each has a graph to serve. -/
  | workspace (phase : Phase) (plan : Plan) (keys : List (Key × Bool))
  | flag (b : Bool)
  | address (p : Address)
  | addresses (ps : List Address)
  /-- The model object behind a name, and its name for itself. -/
  | owner (model : Option (String × String))
  deriving DecidableEq, Repr

/-- Why a request gives nothing. -/
inductive Refusal
  | unreadable (field : String)
  /-- Nothing is kept under this name, or something is that has to make room. -/
  | slot (name : String)
  | config (e : ConfigError)
  | device (e : DeviceError)
  | stack (e : StackError)
  | model (e : ModelError)
  | lookup (e : LookupError)
  | abort (a : Abort)
  | unwinding
  deriving DecidableEq, Repr

/-- The words of a refusal. -/
def Refusal.message : Refusal → String
  | .unreadable field => field
  | .slot name => name
  | .config e => e.message
  | .device e => e.message
  | .stack e => e.message
  | .model e => e.message
  | .lookup e => e.message
  | .abort a => a.message
  | .unwinding => "unwinding"

/-- An operation with errors of its own, as a refusal. -/
def Refusal.ofFailure {ε : Type} (wrap : ε → Refusal) : Failure ε → Refusal
  | .error e => wrap e
  | .defect d => .abort (.defect d)

end GraphReplay.Session
