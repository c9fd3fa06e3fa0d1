import GraphReplay.Session.Basic

/-!
# Requests to devices

Making devices, arming faults, and the calls of a device on things that the
session keeps. The name that a new thing is to be kept under is looked at first,
then the things that a request names; nothing is kept unless the call succeeds.

A graph or executor that is to be destroyed is given up, whatever the device
says to it. Handles are numbers, so those of one device may be tried on another.
-/

namespace GraphReplay.Session.Request

/-- Make a device. -/
def newDevice (as : String) (config : DeviceConfig) : Request Value := do
  if ((← get).custody? as).isSome then throw (.slot as)
  let d ← ofExcept .config (Device.create config)
  modify fun s => { s with devices := s.devices ++ [(as, .free d)] }
  return .device d.alignment.bytes d.relaxedCapture d.captureMode

/-- Nobody can use the device any more. -/
def dropDevice (device : String) : Request Value := do
  let d ← fetchFreeDevice device
  modify (·.setCustody device (.retired d))
  return .nothing

/-- Arm a fault. -/
def arm (device : String) (point : FaultPoint) : Request Value := do
  let _ ← fetchDevice device
  modify (·.modifyDevice device (·.arm point))
  return .nothing

/-- Allocate memory and keep it. -/
def allocate (as device : String) (bytes : Nat) : Request Value := do
  claim buffers as
  let b ← callDevice device (·.allocate bytes)
  modify fun s => { s with buffers := s.buffers.insert as ⟨device, b⟩ }
  return .buffer b

/-- Give memory back. -/
def free (buffer : String) : Request Value := do
  let o ← fetch buffers buffer
  modify fun s =>
    { s.modifyDevice o.device (·.free o.value) with buffers := s.buffers.erase buffer }
  return .nothing

/-- Open a capture. -/
def beginCapture (device : String) (mode : Option CaptureMode) : Request Value := do
  callDevice device fun d => d.beginCapture (mode.getD d.captureMode)
  return .nothing

/-- Close the capture and keep its graph. -/
def endCapture (as device : String) : Request Value := do
  claim graphs as
  let g ← callDevice device Device.endCapture
  modify fun s => { s with graphs := s.graphs.insert as g }
  return .graph g

/-- Put an operation on the stream. -/
def enqueue (device : String) (op : Op) : Request Value := do
  let _ ← fetchDevice device
  modify (·.modifyDevice device (·.enqueue op))
  return .nothing

/-- Make a graph ready to launch. -/
def instantiate (as device graph : String) : Request Value := do
  claim executors as
  let _ ← fetchDevice device
  let g ← fetch graphs graph
  let e ← callDevice device (·.instantiate g)
  modify fun s => { s with executors := s.executors.insert as e }
  return .executor e

/-- Keep an executor under one more name. -/
def cloneExecutor (as executor : String) : Request Value := do
  claim executors as
  let e ← fetch executors executor
  modify fun s => { s with executors := s.executors.insert as e }
  return .nothing

/-- Replay an executor. -/
def launch (device executor : String) : Request Value := do
  let _ ← fetchDevice device
  let e ← fetch executors executor
  callDevice device (·.launch e)
  return .nothing

/-- Destroy an executor. Its name is free afterwards in any case. -/
def destroyExecutor (device executor : String) : Request Value := do
  let _ ← fetchDevice device
  let e ← fetch executors executor
  modify fun s => { s with executors := s.executors.erase executor }
  callDevice device (·.destroyExecutor e)
  return .nothing

/-- Destroy a graph. Its name is free afterwards in any case. -/
def destroyGraph (device graph : String) : Request Value := do
  let _ ← fetchDevice device
  let g ← fetch graphs graph
  modify fun s => { s with graphs := s.graphs.erase graph }
  callDevice device (·.destroyGraph g)
  return .nothing

/-- Wait for the stream. -/
def synchronize (device : String) : Request Value := do
  callDevice device Device.synchronize
  return .nothing

/-- The stream of a device. -/
def showStream (device : String) : Request Value := do
  let d ← fetchDevice device
  return .stream d.capture.isSome d.executed

/-- The log of a device in numbers, also of a retired one. -/
def probe (device : String) : Request Value := do
  match (← get).anyDevice? device with
  | some d => return .probe d.allocationCount d.events.length
  | none => throw (.slot device)

end GraphReplay.Session.Request
