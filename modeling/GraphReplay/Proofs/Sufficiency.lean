import GraphReplay.Proofs.Placement
import Mathlib.Algebra.Order.BigOperators.Group.List
import Mathlib.Algebra.Order.Ring.Nat

/-!
# The plan suffices for the stack

The planner and the stack count differently. The planner adds one whole alignment
for each tensor to what the model says its tensors take; the stack rounds each
address up, from a beginning that may be off the alignment itself. The two meet
in `LaidOut.top_le` of any stack of the planned size: the padding of a greedy
layout is less than one alignment for each of its ranges.

* `ReportsEnough`: a model does not report less than its tensors take;
* `le_of_requirements`: what the planner asks for is at least that and the padding;
* `planned_stack_suffices`: such a model is laid out on every stack of the size
  that it asks for, and no build fails for want of room for it.
-/

namespace GraphReplay

open Failure

/-! ## Reports -/

namespace Model

variable {m : Model}

/-- The memory that the model reports is enough for the tensors that it reports. -/
def ReportsEnough (m : Model) : Prop :=
  ∀ bytes, m.reportedBindingMemory = .ok bytes → m.slotSizes.sum ≤ bytes

/-- The model reports what is so. -/
structure Truthful (m : Model) : Prop where
  maxBatchSize : m.reportedMaxBatchSize = m.maxBatchSize
  bindingsCount : m.reportedBindingsCount = m.bindings.length
  bindingMemory : m.reportedBindingMemory = m.bindingMemory

/-- A model that no report stands in front of is truthful. -/
theorem truthful_of_no_report (h : m.report = none) : m.Truthful where
  maxBatchSize := by rw [reportedMaxBatchSize, h]; rfl
  bindingsCount := by rw [reportedBindingsCount, h]; rfl
  bindingMemory := by rw [reportedBindingMemory, h]; rfl

theorem addBindingMemory_eq_ok {batchSize total bytes : Nat} {bindings : List Binding}
    (h : addBindingMemory batchSize total bindings = .ok bytes) :
    bytes = total + (bindings.map (·.bytesPerItem * batchSize)).sum := by
  induction bindings generalizing total with
  | nil =>
    cases h
    rfl
  | cons b bindings ih =>
    obtain ⟨size, hsize, h⟩ := bind_eq_ok_iff.1 h
    obtain ⟨total', htotal, h⟩ := bind_eq_ok_iff.1 h
    obtain ⟨-, rfl⟩ := Word.mul_eq_ok_iff.1 hsize
    obtain ⟨-, rfl⟩ := Word.add_eq_ok_iff.1 htotal
    rw [ih h, List.map_cons, List.sum_cons, Nat.add_assoc]

theorem Truthful.slotSizes_eq (hm : m.Truthful) :
    m.slotSizes = m.bindings.map (·.bytesPerItem * m.maxBatchSize) := by
  rw [slotSizes, BindingStack.sizes, hm.maxBatchSize, hm.bindingsCount, List.take_length]

theorem Truthful.reportsEnough (hm : m.Truthful) : m.ReportsEnough := by
  intro bytes h
  rw [hm.bindingMemory] at h
  rw [hm.slotSizes_eq, addBindingMemory_eq_ok h, Nat.zero_add]

theorem length_slotSizes_le (m : Model) : m.slotSizes.length ≤ m.reportedBindingsCount := by
  rw [slotSizes, BindingStack.sizes, List.length_map]
  exact List.length_take_le _ _

end Model

/-! ## What the planner asks for -/

theorem Word.le_of_alignUp {size alignment c : Nat} (h : alignUp size alignment = .ok c) : size ≤ c := by
  rcases Nat.eq_zero_or_pos alignment with rfl | hpos
  · cases h
  · rw [((alignUp_eq_ok_iff hpos).1 h).2]
    exact le_roundUp hpos

/-- The planner asks for what the model reports and one alignment for each tensor, at least. -/
theorem Planner.le_of_requirements {p : Planner} {m : Model} {alignment : Nat} {r : Requirements}
    (h : p.requirements m alignment = .ok r) :
    ∃ memory, m.reportedBindingMemory = .ok memory ∧
      memory + m.reportedBindingsCount * alignment < Word.limit ∧
      memory + m.reportedBindingsCount * alignment ≤ r.bindings := by
  obtain ⟨memory, hmemory, h⟩ := bind_eq_ok_iff.1 h
  obtain ⟨padding, hpadding, h⟩ := bind_eq_ok_iff.1 h
  obtain ⟨bindings, hbindings, h⟩ := bind_eq_ok_iff.1 h
  obtain ⟨rounded, hrounded, h⟩ := bind_eq_ok_iff.1 h
  obtain ⟨activations, -, h⟩ := bind_eq_ok_iff.1 h
  cases h
  obtain ⟨-, rfl⟩ := Word.mul_eq_ok_iff.1 hpadding
  obtain ⟨hlt, rfl⟩ := Word.add_eq_ok_iff.1 hbindings
  exact ⟨memory, hmemory, hlt, Word.le_of_alignUp hrounded⟩

/-! ## Room for a model -/

namespace BindingStack

variable {s : BindingStack} {p : Planner} {m : Model} {r : Requirements}

/-- The greedy layout of a model ends in every stack that is as large as the planner asks for. -/
theorem top_le_high (henough : m.ReportsEnough)
    (hr : p.requirements m s.alignment.bytes = .ok r) (hcap : r.bindings ≤ s.capacity) :
    Layout.top s.alignment.bytes s.base.toNat m.slotSizes ≤ s.high := by
  obtain ⟨memory, hmemory, -, hle⟩ := Planner.le_of_requirements hr
  have hsum := henough memory hmemory
  have hlength := Nat.mul_le_mul_right s.alignment.bytes m.length_slotSizes_le
  calc
    Layout.top s.alignment.bytes s.base.toNat m.slotSizes
      ≤ s.base.toNat + m.slotSizes.sum + m.slotSizes.length * s.alignment.bytes :=
        Layout.top_le s.alignment.bytes_pos
    _ ≤ s.base.toNat + (memory + m.reportedBindingsCount * s.alignment.bytes) := by omega
    _ ≤ s.high := Nat.add_le_add_left (Nat.le_trans hle hcap) _

/-- No tensor of such a model is too large for a word. -/
theorem size_lt_limit (henough : m.ReportsEnough) {alignment : Nat}
    (hr : p.requirements m alignment = .ok r) {size : Nat} (h : size ∈ m.slotSizes) :
    size < Word.limit := by
  obtain ⟨memory, hmemory, hlt, -⟩ := Planner.le_of_requirements hr
  have hsize : size ≤ m.slotSizes.sum := List.le_sum_of_mem h
  have hsum := henough memory hmemory
  omega

/-- If pushing the tensors of such a model on an empty stack fails, then because the model reports
    more tensors than it has. -/
theorem pushBindings_error_of_fits (hs : s.Guarded) (hused : s.used = 0)
    (henough : m.ReportsEnough) (hr : p.requirements m s.alignment.bytes = .ok r)
    (hcap : r.bindings ≤ s.capacity) {f : Failure StackError} {pushed : Nat}
    (h : (s.pushBindings m.reportedMaxBatchSize m.reportedBindingsCount m.bindings pushed).1 =
      .error f) :
    (∃ d, f = .defect d) ∧ m.bindings.length < m.reportedBindingsCount := by
  have hlow : s.low = s.base.toNat := by rw [low, hused, Nat.add_zero]
  have hfit := top_le_high henough hr hcap
  rw [← hlow] at hfit
  obtain ⟨hd, hcount | ⟨b, hb, hlimit⟩⟩ := pushBindings_error hs hfit h
  · exact ⟨hd, hcount⟩
  · have hlt := size_lt_limit henough hr (List.mem_map_of_mem hb)
    exact absurd hlt (Nat.not_lt.2 hlimit)

theorem layOut_error_of_fits (hs : s.Guarded) (hused : s.used = 0) (henough : m.ReportsEnough)
    (hr : p.requirements m s.alignment.bytes = .ok r) (hcap : r.bindings ≤ s.capacity)
    {f : Failure StackError} (h : (s.layOut m).1 = .error f) : ∃ d, f = .defect d := by
  rw [layOut] at h
  split at h
  · cases h
    exact ⟨_, rfl⟩
  · exact (pushBindings_error_of_fits hs hused henough hr hcap h).1

end BindingStack

/-! ## Failures of a build -/

namespace Workspace

variable {w w' : Workspace} {s : BindingStack} {a : ActivationSpace} {key : Key} {m : Model}
variable {mode : CaptureMode} {scratch : Address} {name : String} {e : StackError}

theorem ofFailure_device_ne_stack (task : DeviceTask) (f : Failure DeviceError) :
    Abort.ofFailure (.device task) f ≠ .fatal (.stack name e) := by
  cases f <;> intro h <;> cases h

theorem abandoned_ne_stack (d : Device) (name' : String) (e' : ModelError) :
    (abandoned d name' e').1 ≠ .fatal (.stack name e) := by
  rw [abandoned]
  rcases d.endCapture with ⟨(_ | x) | g, d'⟩ <;> intro h <;> cases h

/-- A capture does not fail for the stack. -/
theorem Captures.ne_stack {c : Context} {ps : List Address} {d d' : Device} {x : Abort}
    (h : Captures mode key c ps d (.error x) d') : x ≠ .fatal (.stack name e) := by
  cases h with
  | notBegun _ => exact ofFailure_device_ne_stack _ _
  | refused _ _ => exact abandoned_ne_stack _ _ _
  | notEnded _ _ _ => exact ofFailure_device_ne_stack _ _

/-- Where a key fails for the stack, its tensors did not fit. -/
theorem BuildsKey.stack_error (hw : w.Underway s a) {r : Except Abort Unit}
    (h : BuildsKey mode scratch key m w r w') (hr : r = .error (.fatal (.stack name e))) :
    key.name = name ∧ (s.layOut m).1 = .error (.error e) := by
  cases h with
  | contextless _ => cases hr
  | uncaptured _ _ hcap => exact absurd (Except.error.inj hr) hcap.ne_stack
  | uninstantiated _ _ _ _ =>
    exact absurd (Except.error.inj hr) (ofFailure_device_ne_stack _ _)
  | built _ _ _ _ => cases hr
  | unplaced hc hp =>
    cases hp with
    | @unlaid s₁ s' f _ hs₁ hl =>
      obtain rfl : s₁ = s := Option.some.inj (hs₁.symm.trans hw.stack)
      cases f with
      | defect d => cases hr
      | error e' =>
        cases hr
        rw [hl]
        exact ⟨rfl, rfl⟩
    | stackless _ _ => cases hr

/-- Where a build fails for the stack, it is by a model that reports too little. -/
theorem Builds.stack_error (hreg : w.Registry) (hbare : w.phase = .registering → w.Bare)
    {r : Except Abort Unit} (h : Builds w r w') (hr : r = .error (.fatal (.stack name e))) :
    ∃ m, w.models.find? name = some m ∧ ¬m.ReportsEnough := by
  cases h with
  | again _ => cases hr
  | empty _ _ => cases hr
  | noStack _ _ _ => exact absurd (Except.error.inj hr) (ofFailure_device_ne_stack _ _)
  | noActivations _ _ _ _ => exact absurd (Except.error.inj hr) (ofFailure_device_ne_stack _ _)
  | finished _ _ _ _ _ => cases hr
  | @stopped s a d d' x w' hp _ hs ha hkeys =>
    have hw := underway_furnished hreg (hbare hp) hs ha
    rcases hkeys.outcome (I := fun _ => True) (fun _ _ _ _ _ _ _ _ => trivial) hw trivial
        (fun _ _ => hw.registry.mem_models) with
      ⟨hok, -, -⟩ | ⟨x', key, m, w₁, hx, hretains, hw₁, -, hm, hkey⟩
    · cases hok
    · obtain rfl : x = x' := Except.error.inj hx
      obtain ⟨rfl, hlayout⟩ := hkey.stack_error hw₁ hr
      refine ⟨m, hretains.models ▸ hm, fun henough => ?_⟩
      obtain ⟨needs, hneeds, hle⟩ := hw₁.planned hm
      obtain ⟨d, hd⟩ := BindingStack.layOut_error_of_fits hw₁.guarded hw₁.unused henough hneeds hle hlayout
      cases hd

end Workspace

/-- The planner and the stack agree. A model that reports enough, for tensors that it has, is laid
    out on every empty stack of at least the size that the planner asks for, wherever the stack
    begins and whatever was on it before; neither does the stack run out nor does any arithmetic
    overflow. So no build fails for the stack by such a model, whichever other models share the
    plan. -/
theorem planned_stack_suffices :
    (∀ (p : Planner) (m : Model) (d d' : Device) (r : Requirements) (capacity : Nat)
        (s : BindingStack) (calls : List BindingStack.Call),
      m.ReportsEnough → m.reportedBindingsCount ≤ m.bindings.length →
      p.requirements m d.alignment.bytes = .ok r → r.bindings ≤ capacity →
      BindingStack.create d capacity = (.ok s, d') → (s.afterAll calls).used = 0 →
      ∃ ps, ps.length = m.reportedBindingsCount ∧
        ((s.afterAll calls).pushBindings m.reportedMaxBatchSize m.reportedBindingsCount
          m.bindings 0).1 = .ok ps) ∧
    ∀ (held : List Buffer) (w : Workspace) (name : String), w.Reachable held →
      (∀ m, w.models.find? name = some m → m.ReportsEnough) →
      ∀ e, w.build.1 ≠ .error (.fatal (.stack name e)) := by
  constructor
  · intro p m d d' r capacity s calls henough hcount hr hcap hcreate hused
    obtain ⟨rfl, hguarded, -, -⟩ := BindingStack.create_eq_ok hcreate
    obtain ⟨hreset, hs⟩ := BindingStack.afterAll_frame hguarded calls
    generalize hs₁ : BindingStack.afterAll _ calls = s₁ at *
    -- Whatever was on the stack before, it is the same stack.
    rw [BindingStack.reset_of_unused hused] at hreset
    cases hreset
    rcases hpush : BindingStack.pushBindings m.reportedMaxBatchSize _ m.reportedBindingsCount
      m.bindings 0 with ⟨f | ps, s'⟩
    · have herror := congrArg Prod.fst hpush
      have hlt := (BindingStack.pushBindings_error_of_fits hs hused henough hr hcap herror).2
      exact absurd hlt (Nat.not_lt.2 hcount)
    · have hstarts := congrArg List.length (BindingStack.pushBindings_layout hs hpush).2.2.1
      rw [List.length_map, Layout.length_starts, BindingStack.sizes, List.length_map,
        List.length_take, Nat.min_eq_left hcount] at hstarts
      exact ⟨ps, hstarts, rfl⟩
  · intro held w name hw henough e he
    obtain ⟨m, hm, hnot⟩ := (Workspace.build_builds w).stack_error hw.registry hw.bare he
    exact hnot (henough m hm)

theorem Model.sample_truthful : Model.sample.Truthful := truthful_of_no_report rfl

/-- A stack that begins at 1000 takes a model whose tensors have to be multiples of 256, also after
    other ranges were pushed and taken back, and a build does not run out of it. -/
theorem sample_planned_stack_suffices :
    (∃ ps, ps.length = 2 ∧
      (BindingStack.pushBindings 4 ((⟨⟨⟨1000⟩, 131072⟩, Device.sample.alignment, 0⟩ :
        BindingStack).afterAll [.push 5, .reset]) 2 Model.sample.bindings 0).1 = .ok ps) ∧
      ∀ e, Workspace.sample.build.1 ≠ .error (.fatal (.stack "a" e)) := by
  refine ⟨?_, ?_⟩
  · exact planned_stack_suffices.1 { granularity := {} } .sample .sample
      (BindingStack.create .sample 131072).2 ⟨131072, 131072, 0⟩ 131072 _ [.push 5, .reset]
      Model.sample_truthful.reportsEnough (by decide) (by rfl) (by decide) (by rfl) (by rfl)
  · have hmodel : Workspace.sample.models.find? "a" = some .sample := by decide +kernel
    refine planned_stack_suffices.2 [] .sample "a" Workspace.sample_reachable fun m hm => ?_
    cases hmodel.symm.trans hm
    exact Model.sample_truthful.reportsEnough

end GraphReplay
