import GraphReplay.Word

/-!
# Configuration

What can be chosen about a device and a workspace, and what is refused. A device
has an *alignment*, a power of two; a workspace has two *granularities*, its two
allocations being multiples of them, and neither may be zero.
-/

namespace GraphReplay

/-- Why a configuration is refused. -/
inductive ConfigError
  | zeroStackGranularity
  | zeroActivationGranularity
  /-- The alignment of a device is no power of two. -/
  | invalidAlignment (bytes : Nat)
  deriving DecidableEq, Repr

/-- The words of a refusal. -/
def ConfigError.message : ConfigError → String
  | .zeroStackGranularity => "stack_granularity must be non-zero"
  | .zeroActivationGranularity => "activation_granularity must be non-zero"
  | .invalidAlignment bytes => "device alignment " ++ toString bytes ++ " is not a power of two"

/-- The multiples that the two allocations of a workspace are rounded up to. -/
structure Granularity where
  stack : Nat := 128 * 1024
  activations : Nat := 128 * 1024
  deriving DecidableEq, Repr

/-- Neither granularity may be zero; the one of the stack is looked at first. -/
def Granularity.validate (g : Granularity) : Except ConfigError Unit :=
  if g.stack = 0 then .error .zeroStackGranularity
  else if g.activations = 0 then .error .zeroActivationGranularity
  else .ok ()

/-- An addressing alignment. -/
structure Alignment where
  bytes : Nat
  isPowerOfTwo : bytes.isPowerOfTwo
  deriving DecidableEq, Repr

namespace Alignment

/-- The alignment of `bytes`, if that is a power of two. -/
def ofBytes? (bytes : Nat) : Except ConfigError Alignment :=
  if h : bytes.isPowerOfTwo then .ok ⟨bytes, h⟩ else .error (.invalidAlignment bytes)

/-- An alignment is never zero, so rounding to it is always defined. -/
theorem bytes_pos (a : Alignment) : 0 < a.bytes := Nat.pos_of_isPowerOfTwo a.isPowerOfTwo

end Alignment

/-- What can be chosen about a device: its alignment, whether it can capture in the relaxed mode,
    and the first address it hands out. -/
structure DeviceConfig where
  alignment : Nat := 256
  relaxedCapture : Bool := true
  baseAddress : Nat := 0x7f0000000000
  deriving DecidableEq, Repr

end GraphReplay
