import GraphReplay.Device.Call

/-!
# The activation space

One allocation that every execution context uses as its scratch memory. Contexts
of different models all point at its base, which is sound because everything
runs on one stream and so no two models run at the same time.
-/

namespace GraphReplay

/-- Scratch memory shared by all contexts. -/
structure ActivationSpace where
  backing : Buffer
  deriving DecidableEq, Repr

namespace ActivationSpace

/-- A space of `bytes` bytes on a device. -/
def create (d : Device) (bytes : Nat) : Device.Answer ActivationSpace :=
  let (answer, d') := d.allocate bytes
  (answer.map ActivationSpace.mk, d')

/-- Where the space begins. -/
def base (a : ActivationSpace) : Address := a.backing.address

/-- The bytes of its allocation. -/
def size (a : ActivationSpace) : Nat := a.backing.size

end ActivationSpace

end GraphReplay
