import GraphReplay.Device.Basic

/-!
# Device calls

What a device can be asked to do. Memory is handed out in increasing addresses,
each allocation followed by at least one alignment of unused space. Operations
go to the open capture if there is one, and run otherwise; a launch inside a
capture is recorded operation by operation.

Ending a capture is the one call that a fault does not leave as it was: the
capture is closed before the fault is looked at, and what it held is lost.
-/

namespace GraphReplay.Device

/-- Where the next allocation begins after one of `bytes`: the span is rounded up to the
    alignment, and one more alignment is left unused behind it. -/
def addressAfter (d : Device) (bytes : Nat) : Except Defect Nat := do
  let span ← Word.alignUp (max bytes 1) d.alignment.bytes
  let padded ← Word.add span d.alignment.bytes
  Word.add d.nextAddress padded

/-- Hand out `bytes` of memory. -/
def allocate (d : Device) (bytes : Nat) : Answer Buffer :=
  d.guarded .allocate do
    let next ← d.addressAfter bytes
    let buffer : Buffer := ⟨⟨d.nextAddress⟩, bytes⟩
    return (buffer, { d with nextAddress := next, liveBuffers := d.liveBuffers + 1 }.record
      (.allocate buffer.address bytes))

/-- Take an allocation back. Its addresses are not handed out again. An allocation is taken back
    once, so one is live when this happens. -/
def free (d : Device) (b : Buffer) : Device :=
  { d with liveBuffers := d.liveBuffers - 1 }.record (.free b.address)

/-- Put operations on the stream: into the open capture, or else they run. -/
def issue (d : Device) (ops : List Op) : Device :=
  match d.capture with
  | some recorded => { d with capture := some (recorded ++ ops) }
  | none => { d with executed := d.executed ++ ops }

/-- Put one operation on the stream. -/
def enqueue (d : Device) (op : Op) : Device := d.issue [op]

/-- Open a capture. -/
def beginCapture (d : Device) (mode : CaptureMode) : Answer Unit :=
  d.guarded .beginCapture <|
    match d.capture with
    | some _ => .error (.error .alreadyCapturing)
    | none => .ok ((), { d with capture := some [] }.record (.beginCapture mode))

/-- The next handle number, counted. -/
def newHandle (d : Device) : Except Defect (Nat × Device) := do
  let id ← Word.add d.lastHandle 1
  return (id, { d with lastHandle := id })

/-- Close the capture and make a graph of what it recorded. -/
def endCapture (d : Device) : Answer Graph :=
  match d.capture with
  | none => (.error (.error .notCapturing), d)
  | some ops =>
    -- A fault, or a counter that has run out, leaves the device with the capture closed.
    let closed := { d with capture := none }
    closed.guarded .endCapture do
      let (id, d') ← closed.newHandle
      return (⟨id, ops⟩, { d' with liveGraphs := d'.liveGraphs ++ [id] }.record
        (.endCapture id ops.length))

/-- Make a graph ready to launch. -/
def instantiate (d : Device) (g : Graph) : Answer Executor :=
  d.guarded .instantiate <|
    if g.id ∈ d.liveGraphs then do
      let (id, d') ← d.newHandle
      return (⟨id, g.ops⟩, { d' with liveExecutors := d'.liveExecutors ++ [id] }.record
        (.instantiate g.id id))
    else .error (.error (.unknownGraph g.id))

/-- Replay an executor on the stream. -/
def launch (d : Device) (e : Executor) : Answer Unit :=
  d.guarded .launch <|
    if e.id ∈ d.liveExecutors then .ok ((), (d.record (.launch e.id)).issue e.ops)
    else .error (.error (.unknownExecutor e.id))

/-- Destroy an executor. -/
def destroyExecutor (d : Device) (e : Executor) : Answer Unit :=
  d.guarded .destroyExecutor <|
    if e.id ∈ d.liveExecutors then
      .ok ((), { d with liveExecutors := d.liveExecutors.filter (· ≠ e.id) }.record
        (.destroyExecutor e.id))
    else .error (.error (.unknownExecutor e.id))

/-- Destroy a graph. Executors made of it live on. -/
def destroyGraph (d : Device) (g : Graph) : Answer Unit :=
  d.guarded .destroyGraph <|
    if g.id ∈ d.liveGraphs then
      .ok ((), { d with liveGraphs := d.liveGraphs.filter (· ≠ g.id) }.record
        (.destroyGraph g.id))
    else .error (.error (.unknownGraph g.id))

/-- Wait for all work on the stream. -/
def synchronize (d : Device) : Answer Unit :=
  d.guarded .synchronize (.ok ((), d.record .synchronize))

end GraphReplay.Device
