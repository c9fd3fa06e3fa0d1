import GraphReplay.Proofs.Device
import GraphReplay.Workspace.Build
import GraphReplay.Workspace.Register

/-!
# What can stop an operation

Some defects come from outside: a caller or a model gives numbers that are too
large, or reports more tensors than it has. Two are different. A divisor of zero,
and an entry missing from a table where it has to be, would be slips of the
program itself, and no input should lead to them (`Defect.External`).

Arithmetic is checked in many places, so this is followed through every operation
by what can be said of its failures (`Failure.Raises`). The divisors are an
alignment, which is a power of two, and the two granularities, which have to be
valid. What a table misses is the matter of its invariants.

* `Planner.requirements_overflow`: a model cannot be measured only for an overflow;
* `BindingStack.layOut_external` and the device calls: failures of the other parts;
* `register_external`: failures of a registration.
-/

namespace GraphReplay

/-- A defect that comes from outside. -/
def Defect.External : Defect → Prop
  | .zeroDivisor | .broken _ => False
  | _ => True

theorem Defect.external_iff {d : Defect} :
    d.External ↔ d ≠ .zeroDivisor ∧ ∀ expectation, d ≠ .broken expectation := by
  cases d <;> simp [Defect.External]

/-- A defect of numbers that are too large. -/
def Defect.Overflow : Defect → Prop
  | .addOverflow | .mulOverflow => True
  | _ => False

theorem Defect.Overflow.external : ∀ {d : Defect}, d.Overflow → d.External
  | .addOverflow, _ | .mulOverflow, _ => trivial

/-- An error is an answer; only defects can be slips. -/
def Failure.External {ε : Type} : Failure ε → Prop
  | .error _ => True
  | .defect d => d.External

/-- An abort for a fatal error, or for a defect that comes from outside. -/
def Abort.External : Abort → Prop
  | .fatal _ => True
  | .defect d => d.External

theorem Failure.External.abort {ε : Type} {f : Failure ε} (h : f.External) (wrap : ε → FatalError) :
    (Abort.ofFailure wrap f).External := by
  cases f with
  | error e => trivial
  | defect d => exact h

namespace Failure

variable {ε α β : Type} {P : ε → Prop} {x : Except ε α}

/-- Every failure of `x` has the property. -/
def Raises (P : ε → Prop) (x : Except ε α) : Prop := ∀ e, x = .error e → P e

theorem raises_ok (a : α) : Raises P (.ok a : Except ε α) := nofun

theorem raises_error {e : ε} (he : P e) : Raises P (.error e : Except ε α) := by
  intro e' h
  cases h
  exact he

theorem Raises.bind {f : α → Except ε β} (hx : Raises P x) (hf : ∀ a, Raises P (f a)) :
    Raises P (x >>= f) := by
  cases x with
  | error e => exact raises_error (hx e rfl)
  | ok a => exact hf a

theorem Raises.map (hx : Raises P x) (f : α → β) : Raises P (x.map f) :=
  fun e h => hx e (map_eq_error_iff.1 h)

/-- Numbers that are too large come from outside. -/
theorem Raises.external {x : Except Defect α} (hx : Raises Defect.Overflow x) :
    Raises Defect.External x :=
  fun d h => (hx d h).external

/-- Arithmetic in an operation with errors of its own. -/
theorem Raises.lift_of {P : Defect → Prop} {Q : Failure ε → Prop} {x : Except Defect α}
    (hx : Raises P x) (h : ∀ d, P d → Q (.defect d)) :
    Raises Q (liftM x : Except (Failure ε) α) := by
  cases x with
  | error d => exact raises_error (h d (hx d rfl))
  | ok a => exact raises_ok a

theorem Raises.lift {x : Except Defect α} (hx : Raises Defect.External x) :
    Raises External (liftM x : Except (Failure ε) α) :=
  hx.lift_of fun _ hd => hd

end Failure

open Failure

/-! ## Arithmetic -/

namespace Word

theorem add_overflow (a b : Nat) : Raises Defect.Overflow (add a b) := by
  rw [add]
  split
  · exact raises_ok _
  · exact raises_error trivial

theorem mul_overflow (a b : Nat) : Raises Defect.Overflow (mul a b) := by
  rw [mul]
  split
  · exact raises_ok _
  · exact raises_error trivial

/-- Only a divisor of zero would be a slip. -/
theorem alignUp_overflow (size : Nat) {alignment : Nat} (hpos : 0 < alignment) :
    Raises Defect.Overflow (alignUp size alignment) := by
  intro d h
  obtain ⟨rfl, -⟩ := (alignUp_eq_error_iff hpos).1 h
  trivial

end Word

/-! ## Sizes of models -/

theorem Model.addBindingMemory_overflow (batchSize total : Nat) (bindings : List Binding) :
    Raises Defect.Overflow (addBindingMemory batchSize total bindings) := by
  induction bindings generalizing total with
  | nil => exact raises_ok _
  | cons b bindings ih =>
    exact (Word.mul_overflow _ _).bind fun _ => (Word.add_overflow _ _).bind fun total => ih total

theorem Model.reportedBindingMemory_overflow (m : Model) :
    Raises Defect.Overflow m.reportedBindingMemory := by
  rw [reportedBindingMemory]
  split
  · exact raises_ok _
  · exact addBindingMemory_overflow _ _ _

theorem Granularity.validate_eq_ok_iff {g : Granularity} :
    g.validate = .ok () ↔ 0 < g.stack ∧ 0 < g.activations := by
  rw [validate]
  split
  · next h => simp [h]
  · next h =>
    split
    · next h' => simp [h']
    · next h' => simp [Nat.pos_of_ne_zero h, Nat.pos_of_ne_zero h']

/-- A planner whose granularities are valid divides by no zero. -/
theorem Planner.requirements_overflow {p : Planner} (hp : p.granularity.validate = .ok ())
    (m : Model) (alignment : Nat) : Raises Defect.Overflow (p.requirements m alignment) := by
  obtain ⟨hstack, hactivations⟩ := Granularity.validate_eq_ok_iff.1 hp
  refine m.reportedBindingMemory_overflow.bind fun memory => ?_
  refine (Word.mul_overflow _ _).bind fun padding => (Word.add_overflow _ _).bind fun bindings => ?_
  refine (Word.alignUp_overflow _ hstack).bind fun bindings => ?_
  exact (Word.alignUp_overflow _ hactivations).bind fun activations => raises_ok _

/-! ## The binding stack -/

namespace BindingStack

theorem nextAddress_external (s : BindingStack) : Raises Defect.External s.nextAddress :=
  Raises.external <|
    (Word.add_overflow _ _).bind fun _ => Word.alignUp_overflow _ s.alignment.bytes_pos

theorem push_external (s : BindingStack) (size : Nat) : Raises Failure.External (s.push size) := by
  refine s.nextAddress_external.lift.bind fun start => ?_
  refine (Word.add_overflow _ _).external.lift.bind fun used => ?_
  split
  · exact raises_error trivial
  · exact raises_ok _

theorem pushBindings_external (batchSize count : Nat) (bindings : List Binding) (pushed : Nat)
    (s : BindingStack) :
    Raises Failure.External (s.pushBindings batchSize count bindings pushed).1 := by
  induction count generalizing bindings pushed s with
  | zero => exact raises_ok _
  | succ count ih =>
    match bindings with
    | [] => exact raises_error trivial
    | b :: bindings =>
      rw [pushBindings]
      cases hb : b.bytesFor batchSize with
      | error d => exact raises_error (Word.mul_overflow _ _ d hb).external
      | ok size =>
        cases hp : s.push size with
        | error f =>
          simp only [hp]
          exact raises_error (s.push_external size f hp)
        | ok pushedTo =>
          simp only [hp]
          exact (ih bindings (pushed + 1) pushedTo.2).map _

theorem layOut_external (s : BindingStack) (m : Model) : Raises Failure.External (s.layOut m).1 := by
  rw [layOut]
  split
  · exact raises_error trivial
  · exact pushBindings_external _ _ _ _ _

end BindingStack

/-! ## Device calls -/

namespace Device

variable {α : Type}

/-- An armed fault is no defect. -/
theorem guarded_external {d : Device} {p : FaultPoint}
    {attempt : Except (Failure DeviceError) (α × Device)} (h : Raises Failure.External attempt) :
    Raises Failure.External (d.guarded p attempt).1 := by
  intro f hf
  rcases guarded_cases d p attempt with ⟨-, hg⟩ | ⟨-, f', hf', hg⟩ | ⟨-, a, d', -, hg⟩ <;>
    rw [hg] at hf <;> cases hf
  · trivial
  · exact h f hf'

theorem addressAfter_overflow (d : Device) (bytes : Nat) :
    Raises Defect.Overflow (d.addressAfter bytes) := by
  refine (Word.alignUp_overflow _ d.alignment.bytes_pos).bind fun span => ?_
  exact (Word.add_overflow _ _).bind fun padded => Word.add_overflow _ _

theorem allocate_external (d : Device) (bytes : Nat) :
    Raises Failure.External (d.allocate bytes).1 :=
  guarded_external <| (d.addressAfter_overflow bytes).external.lift.bind fun _ => raises_ok _

theorem beginCapture_external (d : Device) (mode : CaptureMode) :
    Raises Failure.External (d.beginCapture mode).1 := by
  refine guarded_external ?_
  split
  · exact raises_error trivial
  · exact raises_ok _

theorem newHandle_overflow (d : Device) : Raises Defect.Overflow d.newHandle :=
  (Word.add_overflow _ _).bind fun _ => raises_ok _

theorem endCapture_external (d : Device) : Raises Failure.External d.endCapture.1 := by
  rw [endCapture]
  split
  · exact raises_error trivial
  · exact guarded_external <| (newHandle_overflow _).external.lift.bind fun _ => raises_ok _

theorem instantiate_external (d : Device) (g : Graph) :
    Raises Failure.External (d.instantiate g).1 := by
  refine guarded_external ?_
  split
  · exact (newHandle_overflow _).external.lift.bind fun _ => raises_ok _
  · exact raises_error trivial

end Device

theorem BindingStack.create_external (d : Device) (capacity : Nat) :
    Raises Failure.External (create d capacity).1 :=
  (d.allocate_external capacity).map _

theorem ActivationSpace.create_external (d : Device) (bytes : Nat) :
    Raises Failure.External (create d bytes).1 :=
  (d.allocate_external bytes).map _

/-! ## Workspaces -/

namespace Workspace

variable {w : Workspace}

/-- A registration divides by no zero if the granularities are valid. -/
theorem register_external (hw : w.planner.granularity.validate = .ok ()) (l : Ledger)
    (name : String) (m : Model) (batchSize : Nat) :
    Raises Abort.External (w.register l name m batchSize).1 := by
  rw [register]
  cases w.checkRegistration name m batchSize with
  | error e => exact raises_error trivial
  | ok _ =>
    cases w.openContext name m l with
    | error e => exact raises_error trivial
    | ok opened =>
      cases hr : w.planner.requirements m w.device.alignment.bytes with
      | error d => exact raises_error (Planner.requirements_overflow hw m _ d hr).external
      | ok r => exact raises_ok _

end Workspace

end GraphReplay
