import GraphReplay.Session.Basic

/-!
# Requests to stacks and activation spaces

Stacks and spaces live on a device; given up, they give their memory back to it,
also when the device is retired.
-/

namespace GraphReplay.Session.Request

/-- Make a stack and keep it. -/
def newStack (as device : String) (capacity : Nat) : Request Value := do
  claim bindingStacks as
  let stack ← callDevice device (BindingStack.create · capacity)
  modify (·.tell [.stackAllocated stack.base capacity])
  modify fun s => { s with bindingStacks := s.bindingStacks.insert as ⟨device, stack⟩ }
  return .stack stack

/-- Push a range. -/
def push (stack : String) (bytes : Nat) : Request Value := do
  let o ← fetch bindingStacks stack
  let (p, value) ← ofExcept (Refusal.ofFailure .stack) (o.value.push bytes)
  modify fun s => { s with bindingStacks := s.bindingStacks.insert stack { o with value } }
  return .address p

/-- Take back all ranges of a stack. -/
def resetStack (stack : String) : Request Value := do
  let o ← fetch bindingStacks stack
  modify fun s => { s with bindingStacks := s.bindingStacks.insert stack { o with value := o.value.reset } }
  return .nothing

/-- Give the memory of a stack back. -/
def dropStack (stack : String) : Request Value := do
  let o ← fetch bindingStacks stack
  modify fun s =>
    { s.modifyDevice o.device (·.free o.value.backing) with bindingStacks := s.bindingStacks.erase stack }
  return .nothing

/-- A stack as it is. -/
def showStack (stack : String) : Request Value := do
  let o ← fetch bindingStacks stack
  return .stack o.value

/-- Make an activation space and keep it. -/
def newSpace (as device : String) (bytes : Nat) : Request Value := do
  claim spaces as
  let space ← callDevice device (ActivationSpace.create · bytes)
  modify (·.tell [.activationsAllocated space.base bytes])
  modify fun s => { s with spaces := s.spaces.insert as ⟨device, space⟩ }
  return .space space

/-- Give the memory of an activation space back. -/
def dropSpace (space : String) : Request Value := do
  let o ← fetch spaces space
  modify fun s =>
    { s.modifyDevice o.device (·.free o.value.backing) with spaces := s.spaces.erase space }
  return .nothing

end GraphReplay.Session.Request
