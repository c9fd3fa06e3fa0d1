import GraphReplay.Proofs.Device
import GraphReplay.Workspace.Build
import GraphReplay.Workspace.Register

/-!
# Reachable workspaces

A workspace never has its device to itself: while it lives, others open and close
captures on it, arm faults, launch and destroy what they hold, also things of the
workspace, and allocate. What they allocated is theirs (`held`), and they give
back nothing else, because an allocation can be given back only by its holder.

* `Device.Step`: anything that others do to a device;
* `Device.Reachable`: the devices that come about in this way;
* `Workspace.Reachable`: the workspaces that come about on them, by any
  registrations, builds and launches, also refused ones, in any order.

A model may have been renamed, and may have been given contexts, by anyone
between two steps, so a registration finds any ledger.
-/

namespace GraphReplay

namespace Device

/-- A request to a device that hands no memory out. -/
inductive Call
  | arm (point : FaultPoint)
  | beginCapture (mode : CaptureMode)
  | endCapture
  | enqueue (op : Op)
  | instantiate (g : Graph)
  | launch (e : Executor)
  | synchronize
  | destroyExecutor (e : Executor)
  | destroyGraph (g : Graph)

/-- The device after a request, whatever it answered. -/
def after (d : Device) : Call → Device
  | .arm point => d.arm point
  | .beginCapture mode => (d.beginCapture mode).2
  | .endCapture => d.endCapture.2
  | .enqueue op => d.enqueue op
  | .instantiate g => (d.instantiate g).2
  | .launch e => (d.launch e).2
  | .synchronize => d.synchronize.2
  | .destroyExecutor e => (d.destroyExecutor e).2
  | .destroyGraph g => (d.destroyGraph g).2

/-- Anything that others do to a device, and the allocations that they hold before and after. -/
inductive Step : List Buffer → Device → List Buffer → Device → Prop
  | call (held : List Buffer) (d : Device) (c : Call) : Step held d held (d.after c)
  | allocate {held : List Buffer} {d d' : Device} {bytes : Nat} {b : Buffer} :
      d.allocate bytes = (.ok b, d') → Step held d (b :: held) d'
  | refuse {held : List Buffer} {d d' : Device} {bytes : Nat} {f : Failure DeviceError} :
      d.allocate bytes = (.error f, d') → Step held d held d'
  | free {held : List Buffer} {d : Device} {b : Buffer} : b ∈ held →
      Step held d (held.erase b) (d.free b)

/-- The devices that come about by any steps, with what is held of their memory. -/
inductive Reachable : List Buffer → Device → Prop
  | create {c : DeviceConfig} {d : Device} : Device.create c = .ok d → Reachable [] d
  | step {held held' : List Buffer} {d d' : Device} : Reachable held d → Step held d held' d' →
      Reachable held' d'

end Device

namespace Workspace

/-- The workspaces that come about by any steps, with what others hold of the memory of their
    device. -/
inductive Reachable : List Buffer → Workspace → Prop
  | create {held : List Buffer} {d : Device} {g : Granularity} {w : Workspace} :
      d.Reachable held → Workspace.create d g = .ok w → Reachable held w
  | register {held : List Buffer} {w : Workspace} (l : Ledger) (name : String) (m : Model)
      (batchSize : Nat) : Reachable held w → Reachable held (w.register l name m batchSize).2.2
  | build {held : List Buffer} {w : Workspace} : Reachable held w → Reachable held w.build.2
  | launch {held : List Buffer} {w : Workspace} (e : Executor) : Reachable held w →
      Reachable held (w.launch e).2
  | synchronize {held : List Buffer} {w : Workspace} : Reachable held w →
      Reachable held w.synchronize.2
  /-- Others use the device. -/
  | device {held held' : List Buffer} {w : Workspace} {d : Device} : Reachable held w →
      Device.Step held w.device held' d → Reachable held' { w with device := d }
  /-- The journal is collected. -/
  | collect {held : List Buffer} {w : Workspace} : Reachable held w →
      Reachable held { w with journal := [] }

end Workspace

/-! ## A workspace to try things on -/

/-- A device whose memory begins off its alignment. -/
def Device.sample : Device :=
  { alignment := ⟨256, by decide⟩, relaxedCapture := true, nextAddress := 1000 }

/-- A model with one input and one output. -/
def Model.sample : Model :=
  { label := "m"
    maxBatchSize := 4
    bindings := [⟨"x", 100, true⟩, ⟨"y", 10, false⟩]
    activations := 64 }

/-- A workspace with this model under two names, under one of them for two batch sizes. -/
def Workspace.sample : Workspace :=
  let register (w : Workspace) (name : String) (batchSize : Nat) : Workspace :=
    (w.register {} name .sample batchSize).2.2
  register (register (register (ofDevice .sample {}) "a" 4) "b" 2) "a" 1

theorem Device.sample_reachable : sample.Reachable [] :=
  .create (c := { alignment := 256, relaxedCapture := true, baseAddress := 1000 }) rfl

theorem Workspace.sample_reachable : sample.Reachable [] :=
  have hw : (ofDevice .sample {}).Reachable [] := .create (g := {}) Device.sample_reachable rfl
  ((hw.register _ _ _ _).register _ _ _ _).register _ _ _ _

end GraphReplay
