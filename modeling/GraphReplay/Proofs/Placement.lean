import GraphReplay.Proofs.Registry

/-!
# Where tensors lie

The tensors of a name are laid out when its first key is built, on a stack with
nothing on it, so they lie where the greedy layout of the model's own tensors
puts them, whatever else is registered. What makes this sound is what the stack
checks, not what the plan promises, so it holds for models that misreport.

* `LaidOut`: tensors lie at some addresses as in the greedy layout;
* `Memory`: what is so at any time of the two allocations and the tensors;
* `Underway`: what is so before each key of a build;
* `addresses_sound`: the addresses that a workspace gives out are sound.
-/

namespace GraphReplay

/-- The bytes of the tensors that `m` reports, for the largest batch that it reports. -/
def Model.slotSizes (m : Model) : List Nat :=
  BindingStack.sizes m.reportedMaxBatchSize m.reportedBindingsCount m.bindings

/-! ## Layouts of models -/

namespace BindingStack

variable {s s' : BindingStack} {m : Model} {ps : List Address}

/-- The tensors that `m` reports are there, have sizes that are words, and lie at `ps` on `s`, where
    the greedy layout from its beginning puts them. -/
structure LaidOut (s : BindingStack) (m : Model) (ps : List Address) : Prop where
  count_le : m.reportedBindingsCount ≤ m.bindings.length
  bytes : ∀ b ∈ m.bindings.take m.reportedBindingsCount,
    b.bytesFor m.reportedMaxBatchSize = .ok (b.bytesPerItem * m.reportedMaxBatchSize)
  starts : ps.map Address.toNat = Layout.starts s.alignment.bytes s.base.toNat m.slotSizes
  top_le : Layout.top s.alignment.bytes s.base.toNat m.slotSizes ≤ s.high

theorem LaidOut.length_sizes (h : s.LaidOut m ps) : m.slotSizes.length = m.reportedBindingsCount := by
  rw [Model.slotSizes, sizes, List.length_map, List.length_take, Nat.min_eq_left h.count_le]

/-- There is one address for each tensor that is reported. -/
theorem LaidOut.length_eq (h : s.LaidOut m ps) : ps.length = m.reportedBindingsCount := by
  have hlength := congrArg List.length h.starts
  rw [List.length_map, Layout.length_starts, h.length_sizes] at hlength
  exact hlength

theorem LaidOut.rangesAt_eq (h : s.LaidOut m ps) :
    rangesAt ps m.slotSizes =
      (Layout.starts s.alignment.bytes s.base.toNat m.slotSizes).zipWith Range.mk m.slotSizes := by
  rw [rangesAt, ← h.starts, List.zipWith_map_left]

theorem LaidOut.dvd (h : s.LaidOut m ps) {p : Address} (hp : p ∈ ps) :
    s.alignment.bytes ∣ p.toNat := by
  have hmem := List.mem_map_of_mem (f := Address.toNat) hp
  rw [h.starts] at hmem
  exact Layout.dvd_of_mem_starts hmem

/-- No tensor reaches out of the stack. -/
theorem LaidOut.within (h : s.LaidOut m ps) {r : Range} (hr : r ∈ rangesAt ps m.slotSizes) :
    r.Within s.backing.range := by
  rw [h.rangesAt_eq] at hr
  obtain ⟨hstart, hstop⟩ := Layout.mem_zipWith_starts s.alignment.bytes_pos hr
  exact ⟨hstart, Nat.le_trans hstop h.top_le⟩

/-- The tensors lie one after the other. -/
theorem LaidOut.pairwise (h : s.LaidOut m ps) :
    (rangesAt ps m.slotSizes).Pairwise Range.Before := by
  rw [h.rangesAt_eq]
  exact Layout.pairwise_zipWith_starts s.alignment.bytes_pos

theorem reset_of_unused (h : s.used = 0) : s.reset = s := by
  rw [reset, ← h]

theorem layOut_frame (hs : s.Guarded) (m : Model) : (s.layOut m).2.reset = s.reset := by
  rw [layOut]
  split
  · rfl
  · exact (pushBindings_frame hs).1

/-- A stack with nothing on it lays tensors out from its beginning. -/
theorem layOut_eq_ok (hs : s.Guarded) (hused : s.used = 0) (h : s.layOut m = (.ok ps, s')) :
    s.LaidOut m ps := by
  rw [layOut] at h
  split at h
  · cases h
  · obtain ⟨hcount, hbytes, hstarts, htop⟩ := pushBindings_layout hs h
    have hlow : s.low = s.base.toNat := by rw [low, hused, Nat.add_zero]
    rw [hlow] at hstarts htop
    exact ⟨hcount, hbytes, hstarts, htop⟩

end BindingStack

namespace Workspace

variable {w w' : Workspace} {s : BindingStack} {a : ActivationSpace} {name : String} {m : Model}
variable {mode : CaptureMode} {scratch : Address} {key : Key}

/-! ## The memory of a workspace -/

/-- The stack with nothing on it. -/
def emptied (w : Workspace) : Option BindingStack := w.stack.map BindingStack.reset

/-- What is so of the allocations and of the tensors that were laid out. -/
structure Memory (w : Workspace) : Prop where
  guarded : ∀ {s}, w.emptied = some s → s.Guarded ∧ s.alignment = w.device.alignment
  /-- The scratch memory lies behind the stack. -/
  apart : ∀ {s a}, w.emptied = some s → w.activations = some a → s.high ≤ a.base.toNat
  placed : ∀ {name ps}, w.bindings.find? name = some ps →
    ∃ m s a, w.models.find? name = some m ∧ w.emptied = some s ∧ w.activations = some a ∧
      s.LaidOut m ps

/-- What is so before each key of a build. -/
structure Underway (s : BindingStack) (a : ActivationSpace) (w : Workspace) : Prop where
  registry : w.Registry
  memory : w.Memory
  stack : w.stack = some s
  unused : s.used = 0
  capacity : s.capacity = w.plan.stack
  activations : w.activations = some a

theorem Memory.congr (hw : w.Memory) (hmodels : w'.models = w.models)
    (halign : w'.device.alignment = w.device.alignment) (hstack : w'.emptied = w.emptied)
    (hact : w'.activations = w.activations) (hbind : w'.bindings = w.bindings) : w'.Memory where
  guarded h := by
    rw [halign]
    exact hw.guarded (hstack ▸ h)
  apart hs ha := hw.apart (hstack ▸ hs) (hact ▸ ha)
  placed h := by
    rw [hmodels, hstack, hact]
    exact hw.placed (hbind ▸ h)

theorem Memory.keeping (hw : w.Memory) (g : Graph) {d : Device}
    (hd : d.alignment = w.device.alignment) : (w.keeping key g d).Memory := by
  refine hw.congr rfl hd ?_ rfl rfl
  rw [emptied, Workspace.keeping, Option.map_map]
  rfl

theorem Underway.emptied_eq (hw : w.Underway s a) : w.emptied = some s := by
  rw [emptied, hw.stack, Option.map_some, BindingStack.reset_of_unused hw.unused]

theorem Underway.guarded (hw : w.Underway s a) : s.Guarded := (hw.memory.guarded hw.emptied_eq).1

/-- The stack has the planned size, and the plan suffices for every registered model. -/
theorem Underway.planned (hw : w.Underway s a) (hm : w.models.find? name = some m) :
    ∃ r, w.planner.requirements m s.alignment.bytes = .ok r ∧ r.bindings ≤ s.capacity := by
  obtain ⟨r, hr, hle, -⟩ := hw.registry.planned hm
  rw [← (hw.memory.guarded hw.emptied_eq).2] at hr
  rw [← hw.capacity] at hle
  exact ⟨r, hr, hle⟩

/-- Wherever the scratch memory of contexts is, and whatever is told. -/
theorem Underway.prepared (hw : w.Underway s a) {c : Context}
    (hc : w.contexts.find? key.name = some c) : (w.prepared key c scratch).Underway s a where
  registry := hw.registry.retained (retains_prepared hc)
  memory := hw.memory.congr rfl rfl rfl rfl rfl
  stack := hw.stack
  unused := hw.unused
  capacity := hw.capacity
  activations := hw.activations

/-! ## Placing -/

section Places

variable {r : Except Abort (List Address)} {ps : List Address}

theorem Places.activations_eq (h : Places name m w r w') : w'.activations = w.activations := by
  cases h <;> rfl

theorem Places.phase_eq (h : Places name m w r w') : w'.phase = w.phase := by
  cases h <;> rfl

/-- The tensors of a name are known once they are placed. -/
theorem Places.find?_eq (h : Places name m w (.ok ps) w') : w'.bindings.find? name = some ps := by
  cases h with
  | known hb => exact hb
  | laid _ _ _ => exact Table.find?_insert_self _ _ _

/-- Tensors that were placed stay where they are. -/
theorem Places.keeps (h : Places name m w r w') {other : String} {qs : List Address}
    (hq : w.bindings.find? other = some qs) : w'.bindings.find? other = some qs := by
  cases h with
  | known _ => exact hq
  | laid hb _ _ =>
    have hne : other ≠ name := by
      rintro rfl
      rw [hb] at hq
      cases hq
    rw [Table.find?_insert_of_ne _ _ hne]
    exact hq
  | unlaid _ _ _ => exact hq
  | stackless _ _ => exact hq

theorem Places.emptied_eq (hw : w.Underway s a) (h : Places name m w r w') :
    w'.emptied = w.emptied := by
  have hframe {s₁ s' : BindingStack} {answer : Except (Failure StackError) (List Address)}
      (hs : w.stack = some s₁) (hl : s₁.layOut m = (answer, s')) : some s'.reset = w.emptied := by
    cases hw.stack.symm.trans hs
    have hreset := BindingStack.layOut_frame hw.guarded m
    rw [hl] at hreset
    rw [hreset, emptied, hs, Option.map_some]
  cases h with
  | known _ => rfl
  | laid _ hs hl => exact hframe hs hl
  | unlaid _ hs hl => exact hframe hs hl
  | stackless _ _ => rfl

theorem Places.memory (hw : w.Underway s a) (hm : w.models.find? name = some m)
    (h : Places name m w r w') : w'.Memory := by
  have hempt := h.emptied_eq hw
  cases h with
  | known _ => exact hw.memory
  | unlaid _ _ _ => exact hw.memory.congr rfl rfl hempt rfl rfl
  | stackless _ _ => exact hw.memory
  | @laid s₁ s' ps hb hs hl =>
    cases hw.stack.symm.trans hs
    -- Only this adds addresses, and it does so on a stack with nothing on it.
    have hlaid := BindingStack.layOut_eq_ok hw.guarded hw.unused hl
    have hmem : { w with stack := some s' }.Memory := hw.memory.congr rfl rfl hempt rfl rfl
    refine ⟨hmem.guarded, hmem.apart, fun {other qs} hq => ?_⟩
    rw [Table.find?_insert] at hq
    split at hq
    · next hname =>
      cases hq
      exact ⟨m, s, a, hname ▸ hm, hempt.trans hw.emptied_eq, hw.activations, hlaid⟩
    · exact hmem.placed hq

end Places

/-! ## Building -/

theorem BuildsKey.memory {r : Except Abort Unit} (hw : w.Underway s a)
    (hm : w.models.find? key.name = some m) (h : BuildsKey mode scratch key m w r w') :
    w'.Memory := by
  have hplaces {c : Context} {answer : Except Abort (List Address)} {w₁ : Workspace}
      (hc : w.contexts.find? key.name = some c)
      (hp : Places key.name m (w.prepared key c scratch) answer w₁) : w₁.Memory :=
    hp.memory (hw.prepared hc) hm
  cases h with
  | contextless _ => exact hw.memory.congr rfl rfl rfl rfl rfl
  | unplaced hc hp => exact hplaces hc hp
  | uncaptured hc hp hcap => exact (hplaces hc hp).congr rfl hcap.alignment_eq rfl rfl rfl
  | uninstantiated hc hp hcap hi =>
    have hd := (Device.called_of_instantiate hi).alignment_eq
    exact (hplaces hc hp).keeping _ (hd.trans hcap.alignment_eq)
  | @built c ps w₁ g d d' e hc hp hcap hi =>
    have hd := (Device.called_of_instantiate hi).alignment_eq
    have hmem : (w₁.keeping key g d').Memory := (hplaces hc hp).keeping g (hd.trans hcap.alignment_eq)
    exact hmem.congr rfl rfl rfl rfl rfl

/-- The next key finds the stack as this one found it. -/
theorem BuildsKey.underway (hw : w.Underway s a) (hm : w.models.find? key.name = some m)
    (h : BuildsKey mode scratch key m w (.ok ()) w') : w'.Underway s a := by
  have hmem := h.memory hw hm
  have hreg := hw.registry.retained h.retains
  have hcapacity : s.capacity = w'.plan.stack := by
    rw [plan, h.retains.planner]
    exact hw.capacity
  cases h with
  | built hc hp hcap hi =>
    have hempt := (hp.emptied_eq (hw.prepared hc)).trans (hw.prepared hc).emptied_eq
    exact ⟨hreg, hmem, hempt, hw.unused, hcapacity, hp.activations_eq.trans hw.activations⟩

/-- The keys that a build goes through are registered. -/
theorem Registry.mem_models (hw : w.Registry) (h : (key, m) ∈ w.modelsByKey.entries) :
    w.models.find? key.name = some m :=
  hw.keyed (hw.ordered.mem_iff.1 h)

/-- What every key of a build preserves holds at the end of it, or it still holds before the key at
    which the build is given up. -/
theorem BuildsKeys.outcome {I : Workspace → Prop} {entries : List (Key × Model)}
    {r : Except Abort Unit}
    (step : ∀ key m w w', w.Underway s a → w.models.find? key.name = some m → I w →
      BuildsKey mode scratch key m w (.ok ()) w' → I w')
    (h : BuildsKeys mode scratch entries w r w') (hw : w.Underway s a) (hI : I w)
    (hentries : ∀ key m, (key, m) ∈ entries → w.models.find? key.name = some m) :
    (r = .ok () ∧ w'.Underway s a ∧ I w') ∨
      ∃ e key m w₁, r = .error e ∧ w.Retains w₁ ∧ w₁.Underway s a ∧ I w₁ ∧
        w₁.models.find? key.name = some m ∧ BuildsKey mode scratch key m w₁ (.error e) w' := by
  -- A key that is built leaves the next one an empty stack, so the induction goes on from there.
  induction h with
  | nil => exact .inl ⟨rfl, hw, hI⟩
  | stop hkey =>
    have hm := hentries _ _ List.mem_cons_self
    exact .inr ⟨_, _, _, _, rfl, .refl _, hw, hI, hm, hkey⟩
  | cons hkey _ ih =>
    have hm := hentries _ _ List.mem_cons_self
    rcases ih (hkey.underway hw hm) (step _ _ _ _ hw hm hI hkey) fun key m hmem => by
        rw [hkey.retains.models]
        exact hentries key m (List.mem_cons_of_mem _ hmem) with
      hdone | ⟨e, key', m', w₂, hr, hretains, hstop⟩
    · exact .inl hdone
    · exact .inr ⟨e, key', m', w₂, hr, hkey.retains.trans hretains, hstop⟩

theorem BuildsKeys.memory {r : Except Abort Unit} (hw : w.Underway s a)
    (h : BuildsKeys mode scratch w.modelsByKey.entries w r w') : w'.Memory := by
  rcases h.outcome (I := fun _ => True) (fun _ _ _ _ _ _ _ _ => trivial) hw trivial
      (fun _ _ => hw.registry.mem_models) with
    ⟨-, hw', -⟩ | ⟨e, key, m, w₁, -, -, hw₁, -, hm, hkey⟩
  · exact hw'.memory
  · exact hkey.memory hw₁ hm

/-! ## Before the build -/

/-- Nothing was allocated and there is nothing to serve. -/
structure Bare (w : Workspace) : Prop where
  stack : w.stack = none
  activations : w.activations = none
  bindings : w.bindings = {}
  graphs : w.graphs = {}
  executors : w.executors = {}

theorem bare_ofDevice (d : Device) (g : Granularity) : (ofDevice d g).Bare :=
  ⟨rfl, rfl, rfl, rfl, rfl⟩

theorem Bare.enroll (hw : w.Bare) (name : String) (m : Model) (batchSize : Nat) (c : Option Context)
    (r : Requirements) : (w.enroll name m batchSize c r).Bare :=
  ⟨hw.stack, hw.activations, hw.bindings, hw.graphs, hw.executors⟩

theorem Bare.device (hw : w.Bare) (d : Device) : { w with device := d }.Bare :=
  ⟨hw.stack, hw.activations, hw.bindings, hw.graphs, hw.executors⟩

theorem BuildsKey.phase_eq {r : Except Abort Unit} (h : BuildsKey mode scratch key m w r w') :
    w'.phase = w.phase := by
  cases h with
  | contextless _ => rfl
  | unplaced _ hp => exact hp.phase_eq.trans rfl
  | uncaptured _ hp _ => exact hp.phase_eq.trans rfl
  | uninstantiated _ hp _ _ => exact hp.phase_eq.trans rfl
  | built _ hp _ _ => exact hp.phase_eq.trans rfl

theorem BuildsKeys.phase_eq {entries : List (Key × Model)} {r : Except Abort Unit}
    (h : BuildsKeys mode scratch entries w r w') : w'.phase = w.phase := by
  induction h with
  | nil => rfl
  | stop hkey => exact hkey.phase_eq
  | cons hkey _ ih => exact ih.trans hkey.phase_eq

/-- A build closes registration, whatever comes of it. -/
theorem Builds.phase_eq {r : Except Abort Unit} (h : Builds w r w') : w'.phase = .built := by
  cases h with
  | again hp => exact hp
  | empty _ _ => rfl
  | noStack _ _ _ => rfl
  | noActivations _ _ _ _ => rfl
  | stopped _ _ _ _ hkeys => exact hkeys.phase_eq
  | finished _ _ _ _ hkeys => exact hkeys.phase_eq

/-- A reachable workspace is bare as long as registration is open. -/
theorem Reachable.bare {held : List Buffer} (hw : w.Reachable held) :
    w.phase = .registering → w.Bare := by
  refine hw.induct (I := fun w => w.phase = .registering → w.Bare) ?_ ?_ ?_ ?_ ?_
  · exact fun d g _ _ => bare_ofDevice d g
  · exact fun _ w name m n r _ _ _ hw hp => (hw hp).enroll _ _ _ _ _
  · intro _ w _ _ hp
    rw [(build_builds w).phase_eq] at hp
    cases hp
  · exact fun w d _ hw hp => (hw hp).device d
  · intro w hw hp
    obtain ⟨hs, ha, hb, hg, he⟩ := hw hp
    exact ⟨hs, ha, hb, hg, he⟩

/-! ## The memory of reachable workspaces -/

/-- A build begins with its keys on a fresh stack in front of the scratch memory. -/
theorem underway_furnished {d d' : Device} (hreg : w.Registry) (hbare : w.Bare)
    (hs : BindingStack.create w.device w.plan.stack = (.ok s, d))
    (ha : ActivationSpace.create d w.plan.activations = (.ok a, d')) :
    (w.furnished s a d d').Underway s a := by
  have hretains := retains_furnished hs ha
  have hbindings : (w.furnished s a d d').bindings = {} := hbare.bindings
  obtain ⟨rfl, hguarded, hnext, halign⟩ := BindingStack.create_eq_ok hs
  obtain ⟨-, -, hbacking, -⟩ := Device.allocate_eq_ok_iff.1 (ActivationSpace.create_eq_ok_iff.1 ha)
  -- The scratch memory is allocated after the stack, and addresses only grow.
  refine ⟨hreg.retained hretains, ⟨fun hs => ?_, fun hs ha => ?_, fun hb => ?_⟩, rfl, rfl, rfl, rfl⟩
  · cases hs
    exact ⟨hguarded, hretains.alignment.symm⟩
  · cases hs
    cases ha
    rw [ActivationSpace.base, hbacking]
    exact Nat.le_trans (Nat.le_add_right _ _) hnext
  · rw [hbindings] at hb
    cases hb

/-- Without scratch memory there is not much to say. -/
theorem memory_of_unplaced (ha : w.activations = none) (hb : w.bindings = {})
    (hs : ∀ {s}, w.emptied = some s → s.Guarded ∧ s.alignment = w.device.alignment) : w.Memory where
  guarded := hs
  apart _ h := by
    rw [ha] at h
    cases h
  placed h := by
    rw [hb] at h
    cases h

theorem Builds.memory {r : Except Abort Unit} (hreg : w.Registry) (hmem : w.Memory)
    (hbare : w.phase = .registering → w.Bare) (h : Builds w r w') : w'.Memory := by
  have hretains := h.retains
  cases h with
  | again _ => exact hmem
  | empty _ _ => exact hmem.congr rfl rfl rfl rfl rfl
  | noStack _ _ hs =>
    have hd := Device.alignment_of_answer (BindingStack.create_alignment _ _) hs
    exact hmem.congr rfl hd rfl rfl rfl
  | noActivations hp _ hs ha =>
    have hd := Device.alignment_of_answer (ActivationSpace.create_alignment _ _) ha
    obtain ⟨rfl, hguarded, -, halign⟩ := BindingStack.create_eq_ok hs
    refine memory_of_unplaced (hbare hp).activations (hbare hp).bindings fun h => ?_
    cases h
    exact ⟨hguarded, (hd.trans halign).symm⟩
  | stopped hp _ hs ha hkeys => exact hkeys.memory (underway_furnished hreg (hbare hp) hs ha)
  | finished hp _ hs ha hkeys =>
    have hmem' := hkeys.memory (underway_furnished hreg (hbare hp) hs ha)
    exact hmem'.congr rfl rfl rfl rfl rfl

/-- What is so of the memory of every reachable workspace. -/
theorem Reachable.memory {held : List Buffer} (hw : w.Reachable held) : w.Memory := by
  refine hw.induct ?_ ?_ ?_ ?_ ?_
  · exact fun d g _ => memory_of_unplaced rfl rfl fun h => nomatch h
  · intro _ w name m n r hw hcheck _ hmem
    -- Registration is open, so there is no memory yet.
    obtain ⟨hs, ha, hb, -, -⟩ := hw.bare (checkRegistration_eq_ok_iff.1 hcheck).1
    refine memory_of_unplaced ha hb fun h => ?_
    have hempt : w.emptied = none := by rw [emptied, hs, Option.map_none]
    cases hempt.symm.trans h
  · exact fun _ w hw hmem => (build_builds w).memory hw.registry hmem hw.bare
  · exact fun w d hd hmem => hmem.congr rfl hd rfl rfl rfl
  · exact fun w hmem => hmem.congr rfl rfl rfl rfl rfl

theorem addresses_eq_ok_iff {ps : List Address} :
    w.addresses name = .ok ps ↔ w.bindings.find? name = some ps := by
  rw [addresses]
  cases w.bindings.find? name <;> simp

/-- What is known of a name that has addresses. -/
theorem Reachable.laidOut {held : List Buffer} (hw : w.Reachable held) {ps : List Address}
    (h : w.addresses name = .ok ps) :
    ∃ m s a, w.models.find? name = some m ∧ w.stack = some s ∧ w.activations = some a ∧
      s.LaidOut m ps ∧ s.alignment = w.device.alignment ∧ s.high ≤ a.base.toNat := by
  obtain ⟨m, s₁, a, hm, hs₁, ha, hlaid⟩ := hw.memory.placed (addresses_eq_ok_iff.1 h)
  obtain ⟨s, hs, rfl⟩ := Option.map_eq_some_iff.1 hs₁
  have hapart := hw.memory.apart hs₁ ha
  exact ⟨m, s, a, hm, hs, ha, ⟨hlaid.count_le, hlaid.bytes, hlaid.starts, hlaid.top_le⟩,
    (hw.memory.guarded hs₁).2, hapart⟩

/-- The addresses that a workspace gives out for a name are sound, whatever came of its build and
    whatever its model says about itself. There is one for each tensor that the model reports, and
    it is aligned; the tensors lie one after the other in the allocation for tensors and clear of
    the scratch memory. They lie where the greedy layout puts them, which knows this model and the
    beginning of the stack only. -/
theorem addresses_sound {held : List Buffer} (hw : w.Reachable held) {ps : List Address}
    (h : w.addresses name = .ok ps) :
    ∃ m s a, w.models.find? name = some m ∧ w.stack = some s ∧ w.activations = some a ∧
      ps.length = m.reportedBindingsCount ∧
      (m.bindings.take m.reportedBindingsCount).map (·.bytesFor m.reportedMaxBatchSize) =
        m.slotSizes.map .ok ∧
      m.slotSizes.length = ps.length ∧
      (∀ p ∈ ps, w.device.alignment.bytes ∣ p.toNat) ∧
      (∀ r ∈ rangesAt ps m.slotSizes, r.Within s.backing.range ∧ r.Disjoint a.backing.range) ∧
      (rangesAt ps m.slotSizes).Pairwise (fun r r' => r.Before r' ∧ r.Disjoint r') ∧
      ps.map Address.toNat =
        Layout.starts w.device.alignment.bytes s.base.toNat m.slotSizes := by
  obtain ⟨m, s, a, hm, hs, ha, hlaid, halign, hapart⟩ := hw.laidOut h
  refine ⟨m, s, a, hm, hs, ha, hlaid.length_eq, ?bytes, ?length, ?aligned, ?within, ?ordered, ?greedy⟩
  case bytes =>
    rw [Model.slotSizes, BindingStack.sizes, List.map_map]
    exact List.map_congr_left hlaid.bytes
  case length => rw [hlaid.length_sizes, hlaid.length_eq]
  case aligned =>
    intro p hp
    rw [← halign]
    exact hlaid.dvd hp
  case within =>
    intro r hr
    have hwithin := hlaid.within hr
    have hbefore : r.Before a.backing.range := Nat.le_trans hwithin.2 hapart
    exact ⟨hwithin, hbefore.disjoint⟩
  case ordered => exact hlaid.pairwise.imp fun hbefore => ⟨hbefore, hbefore.disjoint⟩
  case greedy =>
    rw [← halign]
    exact hlaid.starts

/-- The allocation of this stack begins at 1000, and its tensors lie behind that, aligned. -/
theorem sample_addresses_sound :
    sample.build.2.Reachable [] ∧ sample.build.2.addresses "a" = .ok [⟨1024⟩, ⟨1536⟩] ∧
      ∃ m s, sample.build.2.models.find? "a" = some m ∧ sample.build.2.stack = some s ∧
        (rangesAt [⟨1024⟩, ⟨1536⟩] m.slotSizes).Pairwise (fun r r' => r.Before r' ∧ r.Disjoint r') ∧
        [1024, 1536] =
          Layout.starts sample.build.2.device.alignment.bytes s.base.toNat m.slotSizes := by
  have hw : sample.build.2.Reachable [] := sample_reachable.build
  have haddresses : sample.build.2.addresses "a" = .ok [⟨1024⟩, ⟨1536⟩] :=
    addresses_eq_ok_iff.2 (by decide +kernel)
  obtain ⟨m, s, _, hm, hs, -, -, -, -, -, -, hordered, hgreedy⟩ := addresses_sound hw haddresses
  exact ⟨hw, haddresses, m, s, hm, hs, hordered, hgreedy⟩

end Workspace

end GraphReplay
