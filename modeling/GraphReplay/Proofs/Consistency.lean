import GraphReplay.Proofs.Defects
import GraphReplay.Proofs.Placement
import GraphReplay.Proofs.Rejection

/-!
# Tables in step

Three tables of a workspace know its models, by name, by key and through their
contexts, and they are written one after the other. They agree at any time,
because a registration writes to all of them or to none (`register_cases`) and a
build writes to none but the contexts, which it only points at memory
(`Retains`). So the build never misses an entry; and since granularities are
looked at before a workspace is made, nothing is ever divided by zero.

* `Reachable.keyed`: every registered name has a key;
* `build_external`: what can stop a build;
* `registry_consistent`: the tables agree, and no operation fails for a slip.
-/

namespace GraphReplay.Workspace

open Failure

variable {w w' : Workspace} {s : BindingStack} {a : ActivationSpace} {name : String} {m : Model}
variable {mode : CaptureMode} {key : Key} {held : List Buffer}

/-! ## Keys and names -/

/-- Every registered name has a key, and the same model under it. -/
def Keyed (w : Workspace) : Prop :=
  ∀ name m, w.models.find? name = some m → ∃ batchSize, w.modelsByKey.find? ⟨name, batchSize⟩ = some m

theorem Keyed.congr (hw : w.Keyed) (hmodels : w'.models = w.models)
    (hkeys : w'.modelsByKey = w.modelsByKey) : w'.Keyed := by
  intro name m h
  rw [hmodels] at h
  rw [hkeys]
  exact hw name m h

theorem Keyed.enroll (hw : w.Keyed) (name : String) (m : Model) (batchSize : Nat)
    (c : Option Context) (r : Requirements) : (w.enroll name m batchSize c r).Keyed := by
  intro name' m' h
  simp only [Workspace.enroll, Table.find?_insert] at h ⊢
  split at h
  · next hname =>
    cases h
    exact ⟨batchSize, if_pos (hname ▸ rfl)⟩
  · next hname =>
    obtain ⟨n, hn⟩ := hw name' m' h
    exact ⟨n, (if_neg fun hk => hname (congrArg Key.name hk)).trans hn⟩

theorem Reachable.keyed (hw : w.Reachable held) : w.Keyed := by
  refine hw.induct (fun d g _ => ?_) (fun _ w name m n r _ _ _ hw => hw.enroll _ _ _ _ _)
    (fun _ w _ hw => ?_) (fun w d _ hw => hw.congr rfl rfl) (fun w hw => hw.congr rfl rfl)
  · intro name m h
    cases h
  · have hretains := (build_builds w).retains
    exact hw.congr hretains.models hretains.modelsByKey

/-- A name is registered exactly if some key has it. -/
theorem Reachable.mem_models_iff (hw : w.Reachable held) :
    name ∈ w.models.keys ↔ name ∈ w.keys.map Key.name := by
  rw [Table.mem_keys_iff, List.mem_map]
  constructor
  · rintro ⟨m, hm⟩
    obtain ⟨n, hn⟩ := hw.keyed name m hm
    exact ⟨⟨name, n⟩, Table.mem_keys_iff.2 ⟨m, hn⟩, rfl⟩
  · rintro ⟨key, hkey, rfl⟩
    obtain ⟨m, hm⟩ := Table.mem_keys_iff.1 hkey
    exact ⟨m, hw.registry.keyed hm⟩

/-- A name is registered exactly if it has a context. -/
theorem Registry.mem_contexts_iff (hw : w.Registry) :
    name ∈ w.models.keys ↔ name ∈ w.contexts.keys := by
  rw [Table.mem_keys_iff, Table.mem_keys_iff]
  constructor
  · rintro ⟨m, hm⟩
    obtain ⟨c, hc, -⟩ := hw.context_of_model hm
    exact ⟨c, hc⟩
  · rintro ⟨c, hc⟩
    obtain ⟨m, hm, -⟩ := hw.model_of_context hc
    exact ⟨m, hm⟩

/-! ## Granularities -/

/-- The granularities of a workspace were looked at when it was made. -/
theorem Reachable.granular (hw : w.Reachable held) : w.planner.granularity.validate = .ok () := by
  refine hw.induct (I := fun w => w.planner.granularity.validate = .ok ()) (fun d g hg => hg)
    (fun _ w name m n r _ _ _ hw => hw) (fun _ w _ hw => ?_) (fun w d _ hw => hw) (fun w hw => hw)
  rwa [(build_builds w).retains.planner]

/-! ## What can stop a build -/

/-- The stack is there when tensors are placed. -/
theorem Places.external {x : Abort} (hw : w.Underway s a) (h : Places name m w (.error x) w') :
    x.External := by
  cases h with
  | @unlaid s₁ s' f _ _ hl => exact (s₁.layOut_external m f (congrArg Prod.fst hl)).abort _
  | stackless _ hs => cases hw.stack.symm.trans hs

theorem abandoned_external (d : Device) (name : String) (e : ModelError) :
    (abandoned d name e).1.External := by
  have hend := d.endCapture_external
  rw [abandoned]
  rcases h : d.endCapture with ⟨(_ | x) | g, d'⟩
  · trivial
  · exact hend (.defect x) (congrArg Prod.fst h)
  · trivial

theorem Captures.external {c : Context} {ps : List Address} {d d' : Device} {x : Abort}
    (h : Captures mode key c ps d (.error x) d') : x.External := by
  cases h with
  | notBegun hb => exact (d.beginCapture_external mode _ (congrArg Prod.fst hb)).abort _
  | refused _ _ => exact abandoned_external _ _ _
  | notEnded _ _ he => exact (Device.endCapture_external _ _ (congrArg Prod.fst he)).abort _

/-- A registered name has its context when its key is built. -/
theorem BuildsKey.external {scratch : Address} {x : Abort} (hw : w.Underway s a)
    (hm : w.models.find? key.name = some m) (h : BuildsKey mode scratch key m w (.error x) w') :
    x.External := by
  cases h with
  | contextless hc =>
    obtain ⟨c, hc', -⟩ := hw.registry.context_of_model hm
    cases hc.symm.trans hc'
  | unplaced hc hp => exact hp.external (hw.prepared hc)
  | uncaptured _ _ hcap => exact hcap.external
  | uninstantiated _ _ _ hi => exact (Device.instantiate_external _ _ _ (congrArg Prod.fst hi)).abort _

/-- The first key that is given up is given up for one of the reasons above, and before the keys
    there are only device calls. -/
theorem Builds.external {x : Abort} (hreg : w.Registry) (hbare : w.phase = .registering → w.Bare)
    (h : Builds w (.error x) w') : x.External := by
  cases h with
  | again _ => trivial
  | noStack _ _ hs => exact (BindingStack.create_external _ _ _ (congrArg Prod.fst hs)).abort _
  | noActivations _ _ _ ha =>
    exact (ActivationSpace.create_external _ _ _ (congrArg Prod.fst ha)).abort _
  | stopped hp _ hs ha hkeys =>
    have hw := underway_furnished hreg (hbare hp) hs ha
    rcases hkeys.outcome (I := fun _ => True) (fun _ _ _ _ _ _ _ _ => trivial) hw trivial
        (fun _ _ => hw.registry.mem_models) with
      ⟨hok, -, -⟩ | ⟨x', key, m, w₁, hx, -, hw₁, -, hm, hkey⟩
    · cases hok
    · cases hx
      exact hkey.external hw₁ hm

/-- A build is stopped by a fatal error or by a defect that comes from outside. -/
theorem Reachable.build_external (hw : w.Reachable held) : Raises Abort.External w.build.1 := by
  intro x hx
  have hbuilds := build_builds w
  rw [hx] at hbuilds
  exact hbuilds.external hw.registry hw.bare

/-- The tables of a workspace are in step at any time. The names that are registered are those that
    have a context and those that some key has; a key has the model of its name, and asks for at
    least one item and for no more than this model reports to take. So no build misses the context
    of a name, its tensor addresses or a graph that it has just kept, and neither a build nor a
    registration divides by zero, whatever the models report. -/
theorem registry_consistent (hw : w.Reachable held) :
    (∀ name, name ∈ w.models.keys ↔ name ∈ w.contexts.keys) ∧
      (∀ name, name ∈ w.models.keys ↔ name ∈ w.keys.map Key.name) ∧
      (∀ key m, w.modelsByKey.find? key = some m → w.models.find? key.name = some m ∧
        1 ≤ key.batchSize ∧ key.batchSize ≤ m.reportedMaxBatchSize) ∧
      (∀ d, w.build.1 = .error (.defect d) →
        d ≠ .zeroDivisor ∧ ∀ expectation, d ≠ .broken expectation) ∧
      ∀ l name m batchSize d, (w.register l name m batchSize).1 = .error (.defect d) →
        d ≠ .zeroDivisor ∧ ∀ expectation, d ≠ .broken expectation := by
  refine ⟨fun _ => hw.registry.mem_contexts_iff, fun _ => hw.mem_models_iff, fun key m hkey => ?_,
    fun d hd => ?_, fun l name m batchSize d hd => ?_⟩
  · obtain ⟨hpos, hmax⟩ := hw.registry.sized hkey
    exact ⟨hw.registry.keyed hkey, Nat.pos_of_ne_zero hpos, hmax⟩
  · exact Defect.external_iff.1 (hw.build_external _ hd)
  · exact Defect.external_iff.1 (register_external hw.granular l name m batchSize _ hd)

/-- This workspace has turned a registration down after it had created a context for it. -/
theorem immense_registry_consistent :
    (sample.register {} "c" immense 1).2.2.Reachable [] ∧
      "c" ∉ (sample.register {} "c" immense 1).2.2.models.keys ∧
      "c" ∉ (sample.register {} "c" immense 1).2.2.contexts.keys ∧
      (sample.register {} "c" immense 1).2.2.modelsByKey.find? ⟨"b", 2⟩ = some .sample ∧
      (sample.register {} "c" immense 1).2.2.models.find? "b" = some .sample ∧
      1 ≤ 2 ∧ 2 ≤ Model.sample.reportedMaxBatchSize ∧
      (sample.register {} "c" immense 1).2.2.build.1 ≠ .error (.defect (.broken indexed)) ∧
      (sample.register {} "c" immense 1).1 = .error (.defect .mulOverflow) ∧
      Defect.mulOverflow ≠ .zeroDivisor := by
  have hw : (sample.register {} "c" immense 1).2.2.Reachable [] := sample_reachable.register _ _ _ _
  have hnone : "c" ∉ (sample.register {} "c" immense 1).2.2.models.keys := by decide +kernel
  have hkey : (sample.register {} "c" immense 1).2.2.modelsByKey.find? ⟨"b", 2⟩ = some .sample := by
    decide +kernel
  have hrejected : (sample.register {} "c" immense 1).1 = .error (.defect .mulOverflow) := rfl
  obtain ⟨hcontexts, -, hkeys, hbuild, -⟩ := registry_consistent hw
  obtain ⟨-, -, -, -, hregister⟩ := registry_consistent sample_reachable
  obtain ⟨hmodel, hpos, hmax⟩ := hkeys _ _ hkey
  exact ⟨hw, hnone, mt (hcontexts "c").2 hnone, hkey, hmodel, hpos, hmax,
    fun h => (hbuild _ h).2 _ rfl, hrejected, (hregister _ _ _ _ _ hrejected).1⟩

end GraphReplay.Workspace
