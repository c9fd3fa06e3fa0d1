import GraphReplay.Arena.Stack
import GraphReplay.Model.Context

/-!
# Errors of a workspace

Two classes, kept apart. A lookup that finds nothing is an ordinary error: the
one request is turned down and serving goes on. A mistake in the configuration
or a device that fails while the workspace is set up or taken down is *fatal*:
it aborts the operation, as a defect does.
-/

namespace GraphReplay

/-- A lookup that found nothing. -/
inductive LookupError
  | graphNotFound (name : String) (batchSize : Nat)
  | bindingsNotFound (name : String)
  deriving DecidableEq, Repr

/-- The words of a failed lookup. -/
def LookupError.message : LookupError → String
  | .graphNotFound name batchSize =>
    "no graph executor for model=" ++ name ++ " bs=" ++ toString batchSize
  | .bindingsNotFound name => "no device bindings for model: " ++ name

/-- What a workspace was asking of its device. -/
inductive DeviceTask
  | allocateStack
  | allocateActivations
  | beginCapture
  | endCapture
  | instantiate
  | synchronize
  | destroyExecutor
  | destroyGraph
  deriving DecidableEq, Repr

/-- The name of a task. -/
def DeviceTask.name : DeviceTask → String
  | .allocateStack => "binding stack allocation"
  | .allocateActivations => "activation allocation"
  | .beginCapture => "begin capture"
  | .endCapture => "end capture"
  | .instantiate => "graph instantiation"
  | .synchronize => "stream synchronize"
  | .destroyExecutor => "graph executor destroy"
  | .destroyGraph => "graph destroy"

/-- What a workspace does not go on after. -/
inductive FatalError
  /-- A registration came after the build. -/
  | registrationClosed (name : String)
  | zeroBatchSize (name : String)
  | batchSizeExceeded (name : String) (batchSize limit : Nat)
  /-- The key is taken. -/
  | duplicateModel (name : String) (batchSize : Nat)
  /-- The name belongs to another model object. -/
  | nameConflict (name : String)
  | alreadyBuilt
  | stack (name : String) (e : StackError)
  | device (task : DeviceTask) (e : DeviceError)
  | model (name : String) (e : ModelError)
  deriving DecidableEq, Repr

/-- The words of a fatal error. -/
def FatalError.message : FatalError → String
  | .registrationClosed name =>
    "registration of new models is not allowed after graph creation (model=" ++ name ++ ")"
  | .zeroBatchSize name => "batch size must be non-zero (model=" ++ name ++ ")"
  | .batchSizeExceeded name batchSize limit =>
    "batch size " ++ toString batchSize ++ " exceeds max batch size " ++ toString limit ++
      " for model=" ++ name
  | .duplicateModel name batchSize =>
    "model collision; model with name=" ++ name ++ " and bs=" ++ toString batchSize ++
      " is already registered"
  | .nameConflict name => "name=" ++ name ++ " is already bound to a different model"
  | .alreadyBuilt => "graphs have already been built for this workspace"
  | .stack name e => "binding stack for model=" ++ name ++ ": " ++ e.message
  | .device task e => "device failure during " ++ task.name ++ ": " ++ e.message
  | .model name e => "model=" ++ name ++ ": " ++ e.message

/-- Why an operation on a workspace was given up. -/
inductive Abort
  | fatal (e : FatalError)
  | defect (d : Defect)
  deriving DecidableEq, Repr

namespace Abort

/-- The words of an abort. -/
def message : Abort → String
  | .fatal e => e.message
  | .defect d => d.message

/-- An operation with errors of its own, whose errors are fatal here. -/
def ofFailure {ε : Type} (wrap : ε → FatalError) : Failure ε → Abort
  | .error e => .fatal (wrap e)
  | .defect d => .defect d

end Abort

end GraphReplay
