import GraphReplay.ByteCount
import GraphReplay.Key
import GraphReplay.Log.Level
import GraphReplay.Plan
import GraphReplay.Workspace.Error

/-!
# Notes

What is told about the work while it goes on. A note is a value that says what
happened; how much it matters (`level`), who tells it (`target`) and how it is
put (`message`, `fields`) are functions of it. Every fatal error is told as one
note, by `Abort.notes`; a defect is not told.
-/

namespace GraphReplay.Log

/-- Something worth telling. -/
inductive Note
  | creating (alignment : Nat) (granularity : Granularity)
  | registering (name : String) (batchSize : Nat)
  | bindingsNeed (name : String) (bytes : Nat)
  | activationsNeed (name : String) (bytes : Nat)
  | weightsNeed (name : String) (bytes : Nat)
  | nothingRegistered
  | stackAllocated (base : Address) (capacity : Nat)
  | activationsAllocated (base : Address) (size : Nat)
  | captureMode (mode : CaptureMode)
  | building (key : Key)
  | built (graphs models : Nat) (plan : Plan)
  | tearingDown
  | destroyingExecutors (count : Nat)
  | destroyingGraphs (count : Nat)
  | fatal (e : FatalError)
  /-- Taking a workspace down failed while something else was already being given up. -/
  | teardownFailed (e : FatalError)
  deriving DecidableEq, Repr

/-- A value that goes with a message. -/
inductive Value
  | number (n : Nat)
  /-- Text that is printed as it is. -/
  | plain (s : String)
  /-- Text that is printed between quotes. -/
  | quoted (s : String)
  deriving DecidableEq, Repr

namespace Note

/-- How much a note matters. -/
def level : Note → Level
  | .nothingRegistered | .built .. => .info
  | .fatal _ | .teardownFailed _ => .error
  | _ => .debug

/-- Who tells a note; filters go by this. -/
def target : Note → String
  | .fatal _ => "graph_workspace::error"
  | .stackAllocated .. => "graph_workspace::memory::stack"
  | .activationsAllocated .. => "graph_workspace::memory::activation"
  | _ => "graph_workspace::workspace"

/-- The message of a note. -/
def message : Note → String
  | .creating .. => "creating graph workspace"
  | .registering .. => "registering model"
  | .bindingsNeed _ bytes => "input/output tensors require " ++ ByteCount.render bytes
  | .activationsNeed _ bytes => "execution activations require " ++ ByteCount.render bytes
  | .weightsNeed _ bytes => "weights require " ++ ByteCount.render bytes
  | .nothingRegistered => "no graphs registered"
  | .stackAllocated .. => "allocated binding stack"
  | .activationsAllocated .. => "allocated activation space"
  | .captureMode _ => "selected stream capture mode"
  | .building _ => "building graph"
  | .built .. => "built graph workspace"
  | .tearingDown => "tearing down graph workspace"
  | .destroyingExecutors _ => "destroying graph executors"
  | .destroyingGraphs _ => "destroying graphs"
  | .fatal _ => "fatal graph workspace error"
  | .teardownFailed _ => "graph workspace teardown failed while unwinding"

/-- The values that go with the message, in the order in which they are printed. -/
def fields : Note → List (String × Value)
  | .creating alignment granularity =>
    [("alignment", .number alignment), ("stack_granularity", .number granularity.stack),
      ("activation_granularity", .number granularity.activations)]
  | .registering name batchSize => [("model", .quoted name), ("batch_size", .number batchSize)]
  | .bindingsNeed name _ | .activationsNeed name _ | .weightsNeed name _ =>
    [("model", .quoted name)]
  | .stackAllocated base capacity =>
    [("base", .plain base.render), ("capacity", .plain (ByteCount.render capacity))]
  | .activationsAllocated base size =>
    [("base", .plain base.render), ("size", .plain (ByteCount.render size))]
  | .captureMode mode => [("mode", .plain mode.name)]
  | .building key => [("model", .plain key.name), ("batch_size", .number key.batchSize)]
  | .built graphs models plan =>
    [("graphs", .number graphs), ("models", .number models),
      ("binding_stack", .plain (ByteCount.render plan.stack)),
      ("activations", .plain (ByteCount.render plan.activations))]
  | .destroyingExecutors count | .destroyingGraphs count => [("count", .number count)]
  | .fatal e | .teardownFailed e => [("error", .plain e.message)]
  | .nothingRegistered | .tearingDown => []

/-- The names by which a filter can ask for what a note holds; the message is one of them. -/
def fieldNames (n : Note) : List String := "message" :: n.fields.map Prod.fst

end Note

end GraphReplay.Log

namespace GraphReplay

/-- What is told about an abort. -/
def Abort.notes : Abort → List Log.Note
  | .fatal e => [.fatal e]
  | .defect _ => []

end GraphReplay
