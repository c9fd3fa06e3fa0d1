import GraphReplay.Device.Call

/-!
# The binding stack

A stack is one allocation of a device from which ranges are pushed one after the
other. A range starts at the lowest aligned *address* that is free, not at an
aligned offset, so a stack works on an allocation that starts anywhere. Single
ranges are never given back; `reset` takes back all of them, and what is pushed
then lies where it would have lain on a new stack.

A push that fails leaves the stack as it is.
-/

namespace GraphReplay

/-- Why a stack refuses a range. -/
inductive StackError
  | exhausted (requested available capacity : Nat)
  deriving DecidableEq, Repr

/-- The words of a refusal. -/
def StackError.message : StackError → String
  | .exhausted requested available capacity =>
    "binding stack exhausted (" ++ toString requested ++ " bytes requested, " ++
      toString available ++ " available, " ++ toString capacity ++ " total)"

/-- A stack of aligned ranges in one allocation. -/
structure BindingStack where
  backing : Buffer
  alignment : Alignment
  /-- The bytes handed out since the last reset, padding included. -/
  used : Nat := 0
  deriving DecidableEq, Repr

namespace BindingStack

/-- A stack of `capacity` bytes on a device. -/
def create (d : Device) (capacity : Nat) : Device.Answer BindingStack :=
  let (answer, d') := d.allocate capacity
  (answer.map fun backing => { backing, alignment := d.alignment }, d')

/-- Where the stack begins. -/
def base (s : BindingStack) : Address := s.backing.address

/-- The bytes of its allocation. -/
def capacity (s : BindingStack) : Nat := s.backing.size

/-- The bytes that were not handed out; never more are used than there are. -/
def available (s : BindingStack) : Nat := s.capacity - s.used

/-- The lowest aligned address that is free. -/
def nextAddress (s : BindingStack) : Except Defect Nat := do
  Word.alignUp (← Word.add s.base.toNat s.used) s.alignment.bytes

/-- Push a range of `size` bytes. -/
def push (s : BindingStack) (size : Nat) : Except (Failure StackError) (Address × BindingStack) := do
  let start ← s.nextAddress
  let used ← Word.add (start - s.base.toNat) size
  if s.capacity < used then throw (.error (.exhausted size s.available s.capacity))
  return (⟨start⟩, { s with used })

/-- Take back all ranges. -/
def reset (s : BindingStack) : BindingStack := { s with used := 0 }

end BindingStack

end GraphReplay
