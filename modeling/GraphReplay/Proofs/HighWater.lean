import GraphReplay.Proofs.Lifecycle
import GraphReplay.Proofs.Ownership
import GraphReplay.Proofs.Sufficiency

/-!
# The plan is the high-water mark

The plan is kept up one registration at a time, and a model is measured again for
each of its keys. What comes of it can be said without any history: of each of the
two allocations, the plan is the most that any registered model needs. It is a
maximum and no sum, so measuring a model once more changes nothing, and it only
ever grows.

* `Model.demand`: what a model needs, in unbounded arithmetic;
* `Reachable.plan_eq`: the plan is the maximum over the registered keys;
* `serve_plan_le`, `after_plan_le`: no request lowers it, so no run does;
* `Builds.allocates`: what a build allocates;
* `plan_is_high_water`: all of this together.
-/

namespace GraphReplay

open Failure

/-! ## What a model needs -/

theorem Word.eq_roundUp_of_alignUp {size alignment c : Nat} (h : alignUp size alignment = .ok c) :
    c = roundUp size alignment := by
  rcases Nat.eq_zero_or_pos alignment with rfl | hpos
  · cases h
  · exact ((alignUp_eq_ok_iff hpos).1 h).2

namespace Model

variable {m : Model} {bytes : Nat}

/-- The bytes of all bindings at the largest batch, as reported. -/
def bindingBytes (m : Model) : Nat :=
  (m.report.bind (·.bindingMemory)).getD (m.bindings.map (·.bytesPerItem * m.maxBatchSize)).sum

/-- What a model needs of the two allocations, rounded up to the granularities. -/
def demand (m : Model) (g : Granularity) (alignment : Nat) : Plan where
  stack := Word.roundUp (m.bindingBytes + m.reportedBindingsCount * alignment) g.stack
  activations := Word.roundUp m.activations g.activations

theorem reportedBindingMemory_eq_ok (h : m.reportedBindingMemory = .ok bytes) :
    bytes = m.bindingBytes := by
  rw [reportedBindingMemory] at h
  rw [bindingBytes]
  cases hreport : m.report.bind (·.bindingMemory) with
  | none =>
    rw [hreport] at h
    rw [addBindingMemory_eq_ok h, Nat.zero_add]
    rfl
  | some bytes' =>
    rw [hreport] at h
    cases h
    rfl

end Model

/-- Where a model can be measured, it is measured right. -/
theorem Planner.requirements_eq_ok {p : Planner} {m : Model} {alignment : Nat} {r : Requirements}
    (h : p.requirements m alignment = .ok r) :
    r.bindings = (m.demand p.granularity alignment).stack ∧
      r.activations = (m.demand p.granularity alignment).activations := by
  obtain ⟨memory, hmemory, h⟩ := bind_eq_ok_iff.1 h
  obtain ⟨padding, hpadding, h⟩ := bind_eq_ok_iff.1 h
  obtain ⟨bindings, hbindings, h⟩ := bind_eq_ok_iff.1 h
  obtain ⟨stack, hstack, h⟩ := bind_eq_ok_iff.1 h
  obtain ⟨activations, hactivations, h⟩ := bind_eq_ok_iff.1 h
  cases h
  obtain rfl := Model.reportedBindingMemory_eq_ok hmemory
  obtain ⟨-, rfl⟩ := Word.mul_eq_ok_iff.1 hpadding
  obtain ⟨-, rfl⟩ := Word.add_eq_ok_iff.1 hbindings
  exact ⟨Word.eq_roundUp_of_alignUp hstack, Word.eq_roundUp_of_alignUp hactivations⟩

/-! ## Allocations in the log -/

namespace Event

/-- The bytes that an event allocated. -/
def allocated? : Event → Option Nat
  | .allocate _ bytes => some bytes
  | _ => none

/-- The sizes of all allocations, by the log. -/
def allocatedIn (log : List Event) : List Nat := log.filterMap allocated?

@[simp] theorem allocatedIn_concat (log : List Event) (e : Event) :
    allocatedIn (log ++ [e]) = allocatedIn log ++ e.allocated?.toList :=
  filterMap_concat allocated? log e

@[simp] theorem allocated?_destroying (h : Handle) : (destroying h).allocated? = none := by
  obtain ⟨_ | _, id⟩ := h <;> rfl

end Event

namespace Device

variable {d d' : Device} {bytes : Nat}

theorem Effect.allocatedIn_eq {c : Call} (h : Effect d c d') :
    Event.allocatedIn d'.books.events = Event.allocatedIn d.books.events := by
  cases h with
  | slight => rfl
  | begun => simp [books, record, Event.allocated?]
  | ended => simp [books, record, Event.allocated?]
  | discarded => rfl
  | enqueued => rw [issue_books]
  | instantiated => simp [books, record, Event.allocated?]
  | launched =>
    rw [issue_books]
    simp [books, record, Event.allocated?]
  | rested => simp [books, record, Event.allocated?]
  | destroyedExecutor => simp [without_books, Books.record, Books.setLive]
  | destroyedGraph => simp [without_books, Books.record, Books.setLive]

/-- Requests allocate nothing. -/
theorem Called.allocatedIn_eq (h : d.Called d') :
    Event.allocatedIn d'.events = Event.allocatedIn d.events :=
  h.induct (I := fun d₁ => Event.allocatedIn d₁.events = Event.allocatedIn d.events)
    (fun d₁ c h₁ => (after_effect d₁ c).allocatedIn_eq.trans h₁) rfl

theorem allocatedIn_of_allocate {b : Buffer} (h : d.allocate bytes = (.ok b, d')) :
    Event.allocatedIn d'.events = Event.allocatedIn d.events ++ [bytes] ∧ b.size = bytes := by
  obtain ⟨-, -, rfl, rfl⟩ := allocate_eq_ok_iff.1 h
  exact ⟨Event.allocatedIn_concat _ _, rfl⟩

theorem allocatedIn_of_refused {f : Failure DeviceError} (h : d.allocate bytes = (.error f, d')) :
    Event.allocatedIn d'.events = Event.allocatedIn d.events := by
  obtain ⟨armed, rfl⟩ := guarded_eq_error h
  rfl

end Device

namespace Workspace

variable {w w' : Workspace} {held : List Buffer} {name : String} {m : Model} {batchSize : Nat}

/-! ## The maximum over the keys -/

/-- What the registered models need, key by key. -/
def demands (w : Workspace) : List Plan :=
  w.modelsByKey.entries.map fun (_, m) => m.demand w.planner.granularity w.device.alignment.bytes

/-- The most that any of them needs, of each of the two allocations. -/
def highWater (w : Workspace) : Plan where
  stack := (w.demands.map Plan.stack).foldr max 0
  activations := (w.demands.map Plan.activations).foldr max 0

theorem Retains.highWater_eq (h : w.Retains w') : w'.highWater = w.highWater := by
  have hdemands : w'.demands = w.demands := by
    rw [demands, demands, h.modelsByKey, h.planner, h.alignment]
  rw [highWater, highWater, hdemands]

theorem Retains.plan_eq (h : w.Retains w') : w'.plan = w.plan := by
  rw [plan, h.planner, plan]

/-- One more key raises the marks to what its model needs. -/
theorem highWater_enroll (hkey : w.modelsByKey.find? ⟨name, batchSize⟩ = none) (c : Option Context)
    {r : Requirements} (hr : w.planner.requirements m w.device.alignment.bytes = .ok r) :
    (w.enroll name m batchSize c r).highWater = w.highWater.fold r := by
  obtain ⟨hbindings, hactivations⟩ := Planner.requirements_eq_ok hr
  have hdemands : (w.enroll name m batchSize c r).demands.Perm
      (m.demand w.planner.granularity w.device.alignment.bytes :: w.demands) :=
    (Table.perm_insertEntry m hkey).map _
  have hmax (f : Plan → Nat) : ((w.enroll name m batchSize c r).demands.map f).foldr max 0 =
      max ((w.demands.map f).foldr max 0)
        (f (m.demand w.planner.granularity w.device.alignment.bytes)) := by
    rw [(hdemands.map f).foldr_eq, List.map_cons, List.foldr_cons, Nat.max_comm]
  rw [highWater, hmax, hmax, Plan.fold, hbindings, hactivations]
  rfl

/-- The plan is what the registered models say, whatever was registered before them and how. -/
theorem Reachable.plan_eq (hw : w.Reachable held) : w.plan = w.highWater := by
  refine hw.induct (I := fun w => w.plan = w.highWater) ?_ ?_ ?_ ?_ ?_
  · exact fun _ _ _ => rfl
  · intro _ w name m batchSize r _ hcheck hr ih
    obtain ⟨-, -, -, hkey, -⟩ := checkRegistration_eq_ok_iff.1 hcheck
    rw [highWater_enroll hkey _ hr, ← ih]
    rfl
  · intro _ w _ ih
    have hbuild := (build_builds w).retains
    rw [hbuild.plan_eq, hbuild.highWater_eq, ih]
  · intro w d halignment ih
    have hdevice := Retains.of_device halignment
    rw [hdevice.plan_eq, hdevice.highWater_eq, ih]
  · exact fun _ ih => ih

/-- A model that is registered already raises no mark. -/
theorem Registry.register_plan_eq (hw : w.Registry) {key : Key}
    (hm : w.modelsByKey.find? key = some m) (l : Ledger) (name : String) (batchSize : Nat) :
    (w.register l name m batchSize).2.2.plan = w.plan := by
  rcases register_cases w l name m batchSize with h | ⟨r, -, hr, h⟩
  · rw [h]
  · obtain ⟨r', hr', hbindings, hactivations⟩ := hw.planned (hw.keyed hm)
    obtain rfl : r' = r := Except.ok.inj (hr'.symm.trans hr)
    have hfold : w.plan.fold r' = w.plan := by
      rw [Plan.fold, Nat.max_eq_left hbindings, Nat.max_eq_left hactivations]
    rw [h]
    exact hfold

/-! ## Runs -/

/-- No request lowers the plan. -/
theorem serve_plan_le (w : Workspace) (ls : Ledgers) (q : Request) :
    w.plan.stack ≤ (w.serve ls q).2.2.plan.stack ∧
      w.plan.activations ≤ (w.serve ls q).2.2.plan.activations := by
  cases q with
  | register name m batchSize =>
    rw [serve]
    rcases register_cases w (ls m.label) name m batchSize with h | ⟨r, -, -, h⟩
    · simp only [h]
      exact ⟨Nat.le_refl _, Nat.le_refl _⟩
    · simp only [h]
      exact ⟨Nat.le_max_left _ _, Nat.le_max_left _ _⟩
  | build =>
    rw [serve, (build_builds w).retains.plan_eq]
    exact ⟨Nat.le_refl _, Nat.le_refl _⟩
  | launch e => exact ⟨Nat.le_refl _, Nat.le_refl _⟩
  | synchronize =>
    rw [serve, synchronize, Procedure.on_callDevice]
    exact ⟨Nat.le_refl _, Nat.le_refl _⟩
  | device f => exact ⟨Nat.le_refl _, Nat.le_refl _⟩
  | model label f => exact ⟨Nat.le_refl _, Nat.le_refl _⟩

theorem after_plan_le (w : Workspace) (ls : Ledgers) (qs : List Request) :
    w.plan.stack ≤ (w.after ls qs).2.plan.stack ∧
      w.plan.activations ≤ (w.after ls qs).2.plan.activations := by
  induction qs generalizing w ls with
  | nil => exact ⟨Nat.le_refl _, Nat.le_refl _⟩
  | cons q qs ih =>
    obtain ⟨hstack, hactivations⟩ := w.serve_plan_le ls q
    obtain ⟨hstack', hactivations'⟩ := ih (w.serve ls q).2.2 (w.serve ls q).2.1
    exact ⟨hstack.trans hstack', hactivations.trans hactivations'⟩

/-! ## The allocations of a build -/

/-- What a build allocates: nothing if nothing is registered, and otherwise the two sizes of the plan,
    as far as the device gives them. -/
inductive Allocates (w : Workspace) : Except Abort Unit → List Nat → Prop
  | nothing : w.keys = [] → Allocates w (.ok ()) []
  | noStack (f : Failure DeviceError) :
      Allocates w (.error (.ofFailure (.device .allocateStack) f)) []
  | noActivations (f : Failure DeviceError) :
      Allocates w (.error (.ofFailure (.device .allocateActivations) f)) [w.plan.stack]
  | both (r : Except Abort Unit) : Allocates w r [w.plan.stack, w.plan.activations]

theorem furnished_allocates {s : BindingStack} {a : ActivationSpace} {d d' : Device}
    (hs : BindingStack.create w.device w.plan.stack = (.ok s, d))
    (ha : ActivationSpace.create d w.plan.activations = (.ok a, d')) :
    Event.allocatedIn d'.events =
        Event.allocatedIn w.device.events ++ [w.plan.stack, w.plan.activations] ∧
      (w.furnished s a d d').owned.map Buffer.size = [w.plan.stack, w.plan.activations] := by
  obtain ⟨hstack, hcapacity⟩ := Device.allocatedIn_of_allocate (BindingStack.allocate_of_create hs)
  obtain ⟨hboth, hsize⟩ := Device.allocatedIn_of_allocate (ActivationSpace.create_eq_ok_iff.1 ha)
  refine ⟨by rw [hboth, hstack, List.append_assoc, List.singleton_append], ?_⟩
  rw [← hcapacity, ← hsize]
  rfl

/-- What a build allocates is in the log, and the workspace owns it. -/
theorem Builds.allocates (hreg : w.Registry) (hp : w.phase = .registering) (hbare : w.Bare)
    {r : Except Abort Unit} (h : Builds w r w') :
    ∃ sizes, w.Allocates r sizes ∧
      Event.allocatedIn w'.device.events = Event.allocatedIn w.device.events ++ sizes ∧
      w'.owned.map Buffer.size = sizes := by
  have hkeys {s : BindingStack} {a : ActivationSpace} {d d' : Device} {answer : Except Abort Unit}
      {w' : Workspace} (hs : BindingStack.create w.device w.plan.stack = (.ok s, d))
      (ha : ActivationSpace.create d w.plan.activations = (.ok a, d'))
      (hkeys : BuildsKeys d'.captureMode a.base w.modelsByKey.entries
        (w.furnished s a d d') answer w') :
      Event.allocatedIn w'.device.events =
          Event.allocatedIn w.device.events ++ [w.plan.stack, w.plan.activations] ∧
        w'.owned.map Buffer.size = [w.plan.stack, w.plan.activations] := by
    obtain ⟨hevents, howned⟩ := furnished_allocates hs ha
    exact ⟨hkeys.called.allocatedIn_eq.trans hevents,
      by rw [hkeys.owned_eq (underway_furnished hreg hbare hs ha), howned]⟩
  cases h with
  | again hbuilt =>
    rw [hp] at hbuilt
    cases hbuilt
  | empty _ hempty =>
    refine ⟨[], .nothing (hreg.keys_eq_nil hempty), (List.append_nil _).symm, ?_⟩
    exact congrArg (List.map Buffer.size) (owned_of_bare hbare)
  | @noStack f d _ _ hs =>
    refine ⟨[], .noStack f, ?_, congrArg (List.map Buffer.size) (owned_of_bare hbare)⟩
    rw [List.append_nil]
    exact Device.allocatedIn_of_refused (BindingStack.allocate_of_create_error hs)
  | @noActivations s f d d' _ _ hs ha =>
    obtain ⟨hstack, hcapacity⟩ :=
      Device.allocatedIn_of_allocate (BindingStack.allocate_of_create hs)
    have hrefused := Device.allocatedIn_of_refused (ActivationSpace.allocate_of_create_error ha)
    refine ⟨[w.plan.stack], .noActivations f, hrefused.trans hstack, ?_⟩
    rw [owned, ← hcapacity]
    simp [withStack, closed, tell, hbare.activations]
  | stopped _ _ hs ha h => exact ⟨_, .both _, hkeys hs ha h⟩
  | finished _ _ hs ha h =>
    obtain ⟨hevents, howned⟩ := hkeys hs ha h
    exact ⟨_, .both _, hevents, howned⟩

/-- The plan of a workspace is exactly the high-water mark of what is registered, whatever it has been
    through: of each of the two allocations, the most that the model of any key needs, and nothing
    if there is none. Every registered model can be measured, and what is measured is what it needs.
    So no run ever lowers the plan, and neither a further key of a model that is registered, under
    whatever name, nor a registration that is turned down changes it. The build allocates these
    two sizes and no others, up to the first one that the device refuses. -/
theorem plan_is_high_water (hw : w.Reachable held) :
    w.plan = w.highWater ∧
      (∀ key m, w.modelsByKey.find? key = some m →
        ∃ r, w.planner.requirements m w.device.alignment.bytes = .ok r ∧
          r.bindings = (m.demand w.planner.granularity w.device.alignment.bytes).stack ∧
          r.activations = (m.demand w.planner.granularity w.device.alignment.bytes).activations) ∧
      (∀ ls qs, w.plan.stack ≤ (w.after ls qs).2.plan.stack ∧
        w.plan.activations ≤ (w.after ls qs).2.plan.activations) ∧
      (∀ key m, w.modelsByKey.find? key = some m →
        ∀ l name batchSize, (w.register l name m batchSize).2.2.plan = w.plan) ∧
      (∀ l name m batchSize e, (w.register l name m batchSize).1 = .error e →
        (w.register l name m batchSize).2.2.plan = w.plan) ∧
      (w.phase = .registering → ∃ sizes, w.Allocates w.build.1 sizes ∧
        Event.allocatedIn w.build.2.device.events = Event.allocatedIn w.device.events ++ sizes ∧
        w.build.2.owned.map Buffer.size = sizes) := by
  have hreg := hw.registry
  refine ⟨hw.plan_eq, fun key m hm => ?_, w.after_plan_le, fun key m hm => hreg.register_plan_eq hm,
    fun l name m batchSize e h => ?_, fun hp => (build_builds w).allocates hreg hp (hw.bare hp)⟩
  · obtain ⟨r, hr, -⟩ := hreg.planned (hreg.keyed hm)
    exact ⟨r, hr, Planner.requirements_eq_ok hr⟩
  · rw [(register_of_error h).1]

/-- Two models: one needs more tensor memory, the other more scratch memory. -/
def mixed : Workspace :=
  let wide : Model := { label := "n", maxBatchSize := 1, bindings := [⟨"x", 1000, true⟩] }
  let w := ofDevice .sample ⟨64, 32⟩
  ((w.register {} "a" .sample 4).2.2.register {} "b" wide 1).2.2

theorem mixed_reachable : mixed.Reachable [] :=
  have hw : (ofDevice .sample ⟨64, 32⟩).Reachable [] :=
    .create (g := ⟨64, 32⟩) Device.sample_reachable rfl
  (hw.register _ _ _ _).register _ _ _ _

/-- Each mark is set by another model, and the build allocates just that. -/
theorem mixed_plan_is_high_water :
    mixed.demands = [⟨960, 64⟩, ⟨1280, 0⟩] ∧ mixed.plan = mixed.highWater ∧
      mixed.highWater = ⟨1280, 64⟩ ∧
      (∀ l, (mixed.register l "c" .sample 2).2.2.plan = mixed.plan) ∧
      mixed.build.2.owned.map Buffer.size = [1280, 64] ∧
      Event.allocatedIn mixed.build.2.device.events =
        Event.allocatedIn mixed.device.events ++ [1280, 64] := by
  obtain ⟨hplan, -, -, hagain, -, hbuild⟩ := plan_is_high_water mixed_reachable
  have hmodel : mixed.modelsByKey.find? ⟨"a", 4⟩ = some .sample := by decide +kernel
  have hsizes : mixed.build.2.owned.map Buffer.size = [1280, 64] := by decide +kernel
  obtain ⟨sizes, -, hevents, howned⟩ := hbuild rfl
  rw [← howned, hsizes] at hevents
  exact ⟨by decide +kernel, hplan, by decide +kernel,
    fun l => hagain ⟨"a", 4⟩ .sample hmodel l "c" 2, hsizes, hevents⟩

end Workspace

end GraphReplay
