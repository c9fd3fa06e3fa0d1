import GraphReplay.Config
import GraphReplay.Model.Basic

/-!
# Memory plan

A workspace makes two allocations, one for tensors and one for scratch memory,
and uses them for all its models in turn. So it needs, of each, what the most
demanding model needs. The planner keeps these two high-water marks.

A model's tensors need the bytes that it reports plus one alignment per tensor,
the room to start each of them on an aligned address.
-/

namespace GraphReplay

/-- What one model needs, in bytes. -/
structure Requirements where
  bindings : Nat
  activations : Nat
  /-- Reported only; never allocated. -/
  weights : Nat := 0
  deriving DecidableEq, Repr

/-- The sizes of the two allocations. -/
structure Plan where
  stack : Nat := 0
  activations : Nat := 0
  deriving DecidableEq, Repr

/-- Whether nothing is needed. -/
def Plan.isEmpty (p : Plan) : Bool := p.stack = 0 ∧ p.activations = 0

/-- The plan that suffices for `p` and for `r`. -/
def Plan.fold (p : Plan) (r : Requirements) : Plan :=
  { stack := max p.stack r.bindings, activations := max p.activations r.activations }

/-- The high-water marks so far, and the multiples that needs are rounded up to. -/
structure Planner where
  granularity : Granularity
  plan : Plan := {}
  deriving DecidableEq, Repr

namespace Planner

/-- What `m` needs on a device that aligns to `alignment` bytes. -/
def requirements (p : Planner) (m : Model) (alignment : Nat) : Except Defect Requirements := do
  let memory ← m.reportedBindingMemory
  let padding ← Word.mul m.reportedBindingsCount alignment
  let bindings ← Word.add memory padding
  let bindings ← Word.alignUp bindings p.granularity.stack
  let activations ← Word.alignUp m.activations p.granularity.activations
  return { bindings, activations, weights := m.reportedWeights }

/-- Raise the marks to what `r` needs. -/
def fold (p : Planner) (r : Requirements) : Planner := { p with plan := p.plan.fold r }

end Planner

end GraphReplay
