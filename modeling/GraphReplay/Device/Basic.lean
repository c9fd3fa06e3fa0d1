import GraphReplay.Address
import GraphReplay.Config

/-!
# Devices

A device hands out address ranges, has one stream of operations, and turns what
is enqueued while a *capture* is open into a *graph*. A graph is instantiated
into an *executor*, and launching an executor enqueues the operations of its
graph once more. Graphs and executors are known to the device by number; the
numbers are drawn from one counter, so no number is used twice.

The device keeps a log of everything it did (`Event`). It can be told to fail:
a fault armed at a point makes the next call there fail and is then used up.

`Device.guarded` is the shape of nearly every call: an armed fault answers,
otherwise an attempt either succeeds with the next state or fails and changes
nothing.
-/

namespace GraphReplay

/-- How strictly a capture forbids calls from elsewhere while it is open. -/
inductive CaptureMode
  | relaxed
  | global
  deriving DecidableEq, Repr

/-- The name of a mode. -/
def CaptureMode.name : CaptureMode → String
  | .relaxed => "Relaxed"
  | .global => "Global"

/-- The calls at which a device can be told to fail. -/
inductive FaultPoint
  | allocate
  | beginCapture
  | endCapture
  | instantiate
  | launch
  | synchronize
  | destroyExecutor
  | destroyGraph
  deriving DecidableEq, Repr

namespace FaultPoint

/-- The name of a fault point. -/
def name : FaultPoint → String
  | .allocate => "Allocate"
  | .beginCapture => "BeginCapture"
  | .endCapture => "EndCapture"
  | .instantiate => "Instantiate"
  | .launch => "Launch"
  | .synchronize => "Synchronize"
  | .destroyExecutor => "DestroyGraphExec"
  | .destroyGraph => "DestroyGraph"

/-- All fault points. -/
def all : List FaultPoint :=
  [.allocate, .beginCapture, .endCapture, .instantiate, .launch, .synchronize, .destroyExecutor,
    .destroyGraph]

/-- The fault point of a name. -/
def ofName? (s : String) : Option FaultPoint := all.find? (·.name = s)

end FaultPoint

/-- One operation on the stream: a kernel, the number of items, and the addresses it works on. -/
structure Op where
  kernel : String
  batchSize : Nat
  args : List Address
  deriving DecidableEq, Repr

/-- An allocation of a device. -/
structure Buffer where
  address : Address
  size : Nat
  deriving DecidableEq, Repr

/-- A recorded sequence of operations. -/
structure Graph where
  id : Nat
  ops : List Op
  deriving DecidableEq, Repr

/-- A graph made ready to launch. -/
structure Executor where
  id : Nat
  ops : List Op
  deriving DecidableEq, Repr

/-- Something a device did. -/
inductive Event
  | allocate (address : Address) (bytes : Nat)
  | free (address : Address)
  | beginCapture (mode : CaptureMode)
  | endCapture (graph ops : Nat)
  | instantiate (graph executor : Nat)
  | launch (executor : Nat)
  | synchronize
  | destroyExecutor (executor : Nat)
  | destroyGraph (graph : Nat)
  deriving DecidableEq, Repr

/-- Why a device refuses a call. -/
inductive DeviceError
  | alreadyCapturing
  | notCapturing
  /-- The device has no live graph of this number. -/
  | unknownGraph (id : Nat)
  /-- The device has no live executor of this number. -/
  | unknownExecutor (id : Nat)
  /-- A fault was armed here. -/
  | injected (point : FaultPoint)
  deriving DecidableEq, Repr

/-- The words of a device error. -/
def DeviceError.message : DeviceError → String
  | .alreadyCapturing => "stream capture error: stream is already capturing"
  | .notCapturing => "stream capture error: stream is not capturing"
  | .unknownGraph id => "invalid handle: graph " ++ toString id
  | .unknownExecutor id => "invalid handle: graph exec " ++ toString id
  | .injected point => "injected fault at " ++ point.name

/-- A device with its stream. -/
structure Device where
  alignment : Alignment
  relaxedCapture : Bool
  /-- Where the next allocation begins. -/
  nextAddress : Nat
  /-- The last number given to a graph or executor. -/
  lastHandle : Nat := 0
  liveBuffers : Nat := 0
  liveGraphs : List Nat := []
  liveExecutors : List Nat := []
  /-- The points with an armed fault. -/
  armed : List FaultPoint := []
  events : List Event := []
  /-- The operations of the open capture, if one is open. -/
  capture : Option (List Op) := none
  /-- The operations that ran, in order. -/
  executed : List Op := []
  deriving DecidableEq, Repr

namespace Device

/-- The answer of a call, and the device after it. -/
abbrev Answer (α : Type) := Except (Failure DeviceError) α × Device

/-- A new device. -/
def create (c : DeviceConfig) : Except ConfigError Device := do
  let alignment ← Alignment.ofBytes? c.alignment
  return { alignment, relaxedCapture := c.relaxedCapture, nextAddress := c.baseAddress }

/-- The most permissive mode that the device can capture in. -/
def captureMode (d : Device) : CaptureMode := if d.relaxedCapture then .relaxed else .global

/-- The number of allocations so far. -/
def allocationCount (d : Device) : Nat :=
  d.events.countP fun
    | .allocate _ _ => true
    | _ => false

/-- Arm a fault. Arming twice is arming once. -/
def arm (d : Device) (p : FaultPoint) : Device :=
  if p ∈ d.armed then d else { d with armed := d.armed ++ [p] }

/-- Use up an armed fault. -/
def disarm (d : Device) (p : FaultPoint) : Device := { d with armed := d.armed.filter (· ≠ p) }

/-- Append to the log. -/
def record (d : Device) (e : Event) : Device := { d with events := d.events ++ [e] }

/-- A call at `p`: an armed fault answers and is used up, otherwise `attempt` answers. An attempt
    that fails leaves the device as it is. -/
def guarded {α : Type} (d : Device) (p : FaultPoint)
    (attempt : Except (Failure DeviceError) (α × Device)) : Answer α :=
  if p ∈ d.armed then (.error (.error (.injected p)), d.disarm p)
  else
    match attempt with
    | .ok (a, d') => (.ok a, d')
    | .error f => (.error f, d)

end Device

end GraphReplay
