import GraphReplay.Proofs.Serving
import GraphReplay.Proofs.Sufficiency

/-!
# Builds that go through

If nothing stands in its way, a build goes through: a device that is willing, room
for the two allocations and numbers for the new handles, and models that are
`Servable`. Everything else that a build could fail at was settled before, by what
registration looks at and by what the planner adds up.

* `Captures.eq_ok`, `Places.eq_ok`, `BuildsKey.eq_ok`: the parts of a key go
  through, and what they leave behind;
* `BuildsKeys.eq_ok`: so do all keys, one after the other, by induction on them;
* `Builds.eq_ok`: so does the build, and what it does to the device;
* `build_completes`: all of this together, for every workspace that can be reached.
-/

namespace GraphReplay

/-! ## Devices -/

namespace Device

variable {d : Device} {mode : CaptureMode}

/-- Nothing stands in the way of a capture. -/
structure Willing (d : Device) : Prop where
  capture : d.capture = none
  beginCapture : .beginCapture ∉ d.armed
  endCapture : .endCapture ∉ d.armed
  instantiate : .instantiate ∉ d.armed

/-- What a device does for one key, after `handle` numbers were given out. -/
def keyEvents (mode : CaptureMode) (handle : Nat) : List Event :=
  [.beginCapture mode, .endCapture (handle + 1) 1, .instantiate (handle + 1) (handle + 2)]

/-- The device after one launch was captured. -/
def captured (d : Device) (mode : CaptureMode) : Device :=
  { d with
    lastHandle := d.lastHandle + 1
    liveGraphs := d.liveGraphs ++ [d.lastHandle + 1]
    events := d.events ++ [.beginCapture mode, .endCapture (d.lastHandle + 1) 1] }

/-- The device after the graph of one launch was made ready. -/
def afterKey (d : Device) (mode : CaptureMode) : Device :=
  { d with
    lastHandle := d.lastHandle + 2
    liveGraphs := d.liveGraphs ++ [d.lastHandle + 1]
    liveExecutors := d.liveExecutors ++ [d.lastHandle + 2]
    events := d.events ++ keyEvents mode d.lastHandle }

theorem Willing.afterKey (hd : d.Willing) : (d.afterKey mode).Willing :=
  ⟨hd.capture, hd.beginCapture, hd.endCapture, hd.instantiate⟩

theorem instantiate_captured (hd : d.Willing) (hlimit : d.lastHandle + 2 < Word.limit)
    (ops : List Op) :
    (d.captured mode).instantiate ⟨d.lastHandle + 1, ops⟩ =
      (.ok ⟨d.lastHandle + 2, ops⟩, d.afterKey mode) := by
  refine instantiate_eq_ok_iff.2 ⟨hd.instantiate, ?_, hlimit, rfl, ?_⟩
  · exact List.mem_append_right _ List.mem_cons_self
  · simp [captured, Device.afterKey, record, keyEvents]

end Device

/-! ## Keys -/

/-- A model that a build can serve. It reports what is so, and its contexts refuse no launch. That
    its tensors can be listed is no restriction: it has them in a list itself. -/
structure Model.Servable (m : Model) : Prop where
  truthful : m.Truthful
  launches : m.failsEnqueue = false
  listed : m.bindings.length < addressListLimit

namespace Workspace

variable {w w' : Workspace} {s : BindingStack} {a : ActivationSpace} {key : Key} {m : Model}
variable {mode : CaptureMode} {scratch : Address}

/-- A willing device captures a launch. -/
theorem Captures.eq_ok {c : Context} {ps : List Address} {d d' : Device} {r : Except Abort Graph}
    {op : Op} (hd : d.Willing) (hlimit : d.lastHandle + 1 < Word.limit)
    (hop : c.operation key.batchSize ps = .ok op) (h : Captures mode key c ps d r d') :
    r = .ok ⟨d.lastHandle + 1, [op]⟩ ∧ d' = d.captured mode := by
  have hbegin : d.beginCapture mode =
      (.ok (), ({ d with capture := some [] } : Device).record (.beginCapture mode)) :=
    Device.beginCapture_eq_ok_iff.2 ⟨hd.beginCapture, hd.capture, rfl⟩
  have hend : ((({ d with capture := some [] } : Device).record (.beginCapture mode)).enqueue
      op).endCapture = (.ok ⟨d.lastHandle + 1, [op]⟩, d.captured mode) := by
    refine Device.endCapture_eq_ok_iff.2 ⟨[op], rfl, hd.endCapture, hlimit, rfl, ?_⟩
    simp [Device.captured, Device.record, Device.enqueue, Device.issue, hd.capture]
  cases h with
  | notBegun hb => cases hbegin.symm.trans hb
  | refused _ ho => cases hop.symm.trans ho
  | notEnded hb ho he =>
    cases hbegin.symm.trans hb
    cases hop.symm.trans ho
    cases hend.symm.trans he
  | captured hb ho he =>
    cases hbegin.symm.trans hb
    cases hop.symm.trans ho
    cases hend.symm.trans he
    exact ⟨rfl, rfl⟩

/-- The tensors of a servable model fit on the stack, whichever key comes first. -/
theorem Underway.layOut_ne_error (hw : w.Underway s a) (hm : w.models.find? key.name = some m)
    (hservable : m.Servable) (f : Failure StackError) : (s.layOut m).1 ≠ .error f := by
  intro hl
  have hcount := hservable.truthful.bindingsCount
  rw [BindingStack.layOut, if_neg (Nat.not_le.2 (hcount ▸ hservable.listed))] at hl
  obtain ⟨needs, hneeds, hle⟩ := hw.planned hm
  have hlt := (BindingStack.pushBindings_error_of_fits hw.guarded hw.unused
    hservable.truthful.reportsEnough hneeds hle hl).2
  rw [hcount] at hlt
  exact Nat.lt_irrefl _ hlt

/-- So they are placed, and each has its address. -/
theorem Places.eq_ok {r : Except Abort (List Address)} (hw : w.Underway s a)
    (hm : w.models.find? key.name = some m) (hservable : m.Servable)
    (h : Places key.name m w r w') : ∃ ps, r = .ok ps ∧ ps.length = m.bindings.length := by
  cases h with
  | @known ps hb =>
    -- An earlier key of the name has placed them, for the same model.
    obtain ⟨m', s', -, hm', -, -, hlaid⟩ := hw.memory.placed hb
    obtain rfl : m = m' := Option.some.inj (hm.symm.trans hm')
    exact ⟨ps, rfl, hlaid.length_eq.trans hservable.truthful.bindingsCount⟩
  | @laid s₁ s' ps _ hs hl =>
    obtain rfl : s = s₁ := Option.some.inj (hw.stack.symm.trans hs)
    have hlaid := BindingStack.layOut_eq_ok hw.guarded hw.unused hl
    exact ⟨ps, rfl, hlaid.length_eq.trans hservable.truthful.bindingsCount⟩
  | @unlaid s₁ s' f _ hs hl =>
    obtain rfl : s = s₁ := Option.some.inj (hw.stack.symm.trans hs)
    exact absurd (congrArg Prod.fst hl) (hw.layOut_ne_error hm hservable f)
  | stackless _ hs => cases hw.stack.symm.trans hs

/-- The launch of a servable key is captured, wherever its tensors come from. -/
theorem Places.captures_eq_ok (mode : CaptureMode) {c : Context}
    {answer : Except Abort (List Address)} (hw : w.Underway s a) (hd : w.device.Willing)
    (hm : w.models.find? key.name = some m) (hservable : m.Servable)
    (hsize : key.batchSize ≤ m.reportedMaxBatchSize) (hlimit : w.device.lastHandle + 1 < Word.limit)
    (hc : w.contexts.find? key.name = some c)
    (hp : Places key.name m (w.prepared key c a.base) answer w') :
    ∃ ps op, answer = .ok ps ∧
      ∀ r d, Captures mode key (c.setScratch a.base) ps w'.device r d →
        r = .ok ⟨w.device.lastHandle + 1, [op]⟩ ∧ d = w.device.captured mode := by
  obtain ⟨ps, rfl, hlength⟩ := hp.eq_ok (hw.prepared hc) hm hservable
  -- The context was made for the registered model, so it takes these tensors and this batch.
  obtain ⟨m', hm', hunset⟩ := hw.registry.model_of_context hc
  obtain rfl : m = m' := Option.some.inj (hm.symm.trans hm')
  have hmodel : (c.setScratch a.base).model = m := congrArg Context.model hunset
  rw [hservable.truthful.maxBatchSize] at hsize
  have hop : (c.setScratch a.base).operation key.batchSize ps =
      .ok ⟨c.kernel, key.batchSize, ps ++ [a.base]⟩ := by
    refine (Context.operation_eq_ok_iff rfl).2 ?_
    rw [hmodel]
    exact ⟨hlength, hsize, hservable.launches, rfl⟩
  refine ⟨ps, ⟨c.kernel, key.batchSize, ps ++ [a.base]⟩, rfl, fun r d hcap => ?_⟩
  rw [hp.device_eq] at hcap
  exact hcap.eq_ok hd hlimit hop

/-- A servable key is built. -/
theorem BuildsKey.eq_ok {r : Except Abort Unit} (hw : w.Underway s a) (hd : w.device.Willing)
    (hm : w.models.find? key.name = some m) (hservable : m.Servable)
    (hsize : key.batchSize ≤ m.reportedMaxBatchSize) (hlimit : w.device.lastHandle + 2 < Word.limit)
    (h : BuildsKey mode a.base key m w r w') :
    r = .ok () ∧ w'.device = w.device.afterKey mode ∧
      ∃ ops, w'.graphs.find? key = some ⟨w.device.lastHandle + 1, ops⟩ ∧
        w'.executors.find? key = some ⟨w.device.lastHandle + 2, ops⟩ := by
  have hlimit' : w.device.lastHandle + 1 < Word.limit := Nat.lt_of_succ_lt hlimit
  cases h with
  | contextless hc =>
    obtain ⟨c, hc', -⟩ := hw.registry.context_of_model hm
    cases hc.symm.trans hc'
  | unplaced hc hp =>
    obtain ⟨ps, op, hok, -⟩ := hp.captures_eq_ok mode hw hd hm hservable hsize hlimit' hc
    cases hok
  | uncaptured hc hp hcap =>
    obtain ⟨ps, op, hok, hcaptures⟩ := hp.captures_eq_ok mode hw hd hm hservable hsize hlimit' hc
    cases hok
    cases (hcaptures _ _ hcap).1
  | uninstantiated hc hp hcap hi =>
    obtain ⟨ps, op, hok, hcaptures⟩ := hp.captures_eq_ok mode hw hd hm hservable hsize hlimit' hc
    cases hok
    obtain ⟨hg, rfl⟩ := hcaptures _ _ hcap
    cases hg
    cases (Device.instantiate_captured hd hlimit [op]).symm.trans hi
  | built hc hp hcap hi =>
    obtain ⟨ps, op, hok, hcaptures⟩ := hp.captures_eq_ok mode hw hd hm hservable hsize hlimit' hc
    cases hok
    obtain ⟨hg, rfl⟩ := hcaptures _ _ hcap
    cases hg
    cases (Device.instantiate_captured hd hlimit [op]).symm.trans hi
    exact ⟨rfl, rfl, [op], Table.find?_insert_self _ _ _, Table.find?_insert_self _ _ _⟩

/-! ## Builds -/

/-- Servable keys are built one after the other, each with the next two handles. -/
theorem BuildsKeys.eq_ok {entries : List (Key × Model)} {r : Except Abort Unit}
    (h : BuildsKeys mode a.base entries w r w') (hw : w.Underway s a) (hd : w.device.Willing)
    (hentries : ∀ key m, (key, m) ∈ entries → w.models.find? key.name = some m ∧ m.Servable ∧
      key.batchSize ≤ m.reportedMaxBatchSize)
    (hdistinct : (entries.map (·.1)).Nodup)
    (hlimit : w.device.lastHandle + 2 * entries.length < Word.limit) :
    r = .ok () ∧
      w'.device.events = w.device.events ++
        (List.range' w.device.lastHandle entries.length 2).flatMap (Device.keyEvents mode) ∧
      ∀ i key, (entries.map (·.1))[i]? = some key →
        ∃ ops, w'.graphs.find? key = some ⟨w.device.lastHandle + 2 * i + 1, ops⟩ ∧
          w'.executors.find? key = some ⟨w.device.lastHandle + 2 * i + 2, ops⟩ := by
  induction h with
  | nil => exact ⟨rfl, (List.append_nil _).symm, fun i key hi => nomatch hi⟩
  | stop hkey =>
    obtain ⟨hm, hservable, hsize⟩ := hentries _ _ List.mem_cons_self
    rw [List.length_cons] at hlimit
    cases (hkey.eq_ok hw hd hm hservable hsize (by omega)).1
  | @cons key m rest w w₁ w' r hkey hrest ih =>
    obtain ⟨hm, hservable, hsize⟩ := hentries _ _ List.mem_cons_self
    rw [List.length_cons] at hlimit
    obtain ⟨-, hdevice, ops, hgraph, hexecutor⟩ :=
      hkey.eq_ok hw hd hm hservable hsize (by omega)
    have hlast : w₁.device.lastHandle = w.device.lastHandle + 2 := by rw [hdevice]; rfl
    rw [List.map_cons, List.nodup_cons] at hdistinct
    obtain ⟨hr, hevents, hserved⟩ := ih (hkey.underway hw hm) (by rw [hdevice]; exact hd.afterKey)
      (fun key m hmem => by
        rw [hkey.retains.models]
        exact hentries key m (List.mem_cons_of_mem _ hmem))
      hdistinct.2 (by rw [hlast]; omega)
    refine ⟨hr, ?_, ?_⟩
    · rw [hevents, hlast, hdevice, Device.afterKey, List.length_cons, List.range'_succ,
        List.flatMap_cons, List.append_assoc]
    · intro i key' hi
      match i with
      | 0 =>
        -- No later key is the same one, so the first keeps what it got.
        cases hi
        obtain ⟨hgraphs, hexecutors⟩ := hrest.find?_of_notMem hdistinct.1
        exact ⟨ops, hgraphs.trans hgraph, hexecutors.trans hexecutor⟩
      | i + 1 =>
        obtain ⟨ops', hgraph', hexecutor'⟩ := hserved i key' hi
        rw [hlast, Nat.add_assoc _ 2, Nat.add_comm 2, ← Nat.mul_succ] at hgraph' hexecutor'
        exact ⟨ops', hgraph', hexecutor'⟩

/-- The two allocations that a build makes, and the device after them. -/
theorem furnish_eq_ok {d : Device} {bytes bytes' : Nat} (harmed : .allocate ∉ d.armed)
    (hmemory : d.nextAddress + d.span bytes + d.span bytes' < Word.limit) :
    ∃ s a d₁ d₂, BindingStack.create d bytes = (.ok s, d₁) ∧
      ActivationSpace.create d₁ bytes' = (.ok a, d₂) ∧ d₂.capture = d.capture ∧
      d₂.armed = d.armed ∧ d₂.lastHandle = d.lastHandle ∧ d₂.captureMode = d.captureMode ∧
      d₂.events = d.events ++ [.allocate ⟨d.nextAddress⟩ bytes,
        .allocate ⟨d.nextAddress + d.span bytes⟩ bytes'] := by
  have hstack := Device.allocate_eq_ok_iff.2
    ⟨harmed, Nat.lt_of_le_of_lt (Nat.le_add_right _ _) hmemory, rfl, rfl⟩
  -- The second allocation finds the device as the first left it.
  generalize hd₁ : Device.record _ _ = d₁ at hstack
  have hactivations : d₁.allocate bytes' = (.ok ⟨⟨d₁.nextAddress⟩, bytes'⟩, _) :=
    Device.allocate_eq_ok_iff.2 ⟨by rw [← hd₁]; exact harmed, by rw [← hd₁]; exact hmemory, rfl, rfl⟩
  refine ⟨⟨⟨⟨d.nextAddress⟩, bytes⟩, d.alignment, 0⟩, ⟨⟨⟨d₁.nextAddress⟩, bytes'⟩⟩, d₁, _,
    by rw [BindingStack.create, hstack]; rfl, ActivationSpace.create_eq_ok_iff.2 hactivations, ?_⟩
  rw [← hd₁]
  refine ⟨rfl, rfl, rfl, rfl, ?_⟩
  simp [Device.record]

theorem Builds.eq_ok {r : Except Abort Unit} (h : Builds w r w') (hreg : w.Registry)
    (hbare : w.phase = .registering → w.Bare) (hp : w.phase = .registering)
    (hsome : ¬w.models.entries.isEmpty) (hd : w.device.Willing) (harmed : .allocate ∉ w.device.armed)
    (hservable : ∀ name m, w.models.find? name = some m → m.Servable)
    (hmemory : w.device.nextAddress + w.device.span w.plan.stack +
      w.device.span w.plan.activations < Word.limit)
    (hlimit : w.device.lastHandle + 2 * w.keys.length < Word.limit) :
    r = .ok () ∧
      w'.device.events = w.device.events ++ [.allocate ⟨w.device.nextAddress⟩ w.plan.stack,
          .allocate ⟨w.device.nextAddress + w.device.span w.plan.stack⟩ w.plan.activations] ++
        (List.range' w.device.lastHandle w.keys.length 2).flatMap
          (Device.keyEvents w.device.captureMode) ∧
      ∀ i key, w.keys[i]? = some key →
        ∃ ops, w'.graphs.find? key = some ⟨w.device.lastHandle + 2 * i + 1, ops⟩ ∧
          w'.executors.find? key = some ⟨w.device.lastHandle + 2 * i + 2, ops⟩ := by
  obtain ⟨s, a, d, d', hs, ha, hcapture, harmed', hlast, hmode, hevents⟩ := furnish_eq_ok harmed hmemory
  have hw := underway_furnished hreg (hbare hp) hs ha
  have hd' : d'.Willing := ⟨hcapture.trans hd.capture, harmed' ▸ hd.beginCapture,
    harmed' ▸ hd.endCapture, harmed' ▸ hd.instantiate⟩
  have hlength : w.modelsByKey.entries.length = w.keys.length := (List.length_map _).symm
  have hkeys {r : Except Abort Unit} {w' : Workspace}
      (hb : BuildsKeys d'.captureMode a.base w.modelsByKey.entries (w.furnished s a d d') r w') :
      r = .ok () ∧
        w'.device.events = d'.events ++
          (List.range' d'.lastHandle w.modelsByKey.entries.length 2).flatMap
            (Device.keyEvents d'.captureMode) ∧
        ∀ i key, w.keys[i]? = some key →
          ∃ ops, w'.graphs.find? key = some ⟨d'.lastHandle + 2 * i + 1, ops⟩ ∧
            w'.executors.find? key = some ⟨d'.lastHandle + 2 * i + 2, ops⟩ := by
    refine hb.eq_ok hw hd' (fun key m hmem => ?_) hreg.ordered.nodup ?_
    · have hm := hreg.mem_models hmem
      exact ⟨hm, hservable _ _ hm, (hreg.sized (hreg.ordered.mem_iff.1 hmem)).2⟩
    · rw [← hlast, ← hlength] at hlimit
      exact hlimit
  rw [hlength, hlast, hevents, hmode] at hkeys
  cases h with
  | again hbuilt => cases hp.symm.trans hbuilt
  | empty _ hempty => exact absurd hempty hsome
  | noStack _ _ hs' => cases hs.symm.trans hs'
  | noActivations _ _ hs' ha' =>
    cases hs.symm.trans hs'
    cases ha.symm.trans ha'
  | stopped _ _ hs' ha' hb =>
    cases hs.symm.trans hs'
    cases ha.symm.trans ha'
    rw [hmode] at hb
    cases (hkeys hb).1
  | finished _ _ hs' ha' hb =>
    cases hs.symm.trans hs'
    cases ha.symm.trans ha'
    rw [hmode] at hb
    exact ⟨rfl, (hkeys hb).2⟩

/-- A build goes through if something is registered, registration is open, no capture is, no fault
    of the calls that it makes is armed, the registered models are servable, and there are addresses
    for the two allocations and numbers for the handles. Then every registered key is served, and
    what the device did is known: the two allocations of the plan, and for each key in order the
    capture of one launch and the instantiation of the very graph that it gave. -/
theorem build_completes {held : List Buffer} (hw : w.Reachable held) (hp : w.phase = .registering)
    {name : String} (hname : w.isRegistered name) (hcapture : w.device.capture = none)
    (harmed : ∀ p ∈ [FaultPoint.allocate, .beginCapture, .endCapture, .instantiate],
      p ∉ w.device.armed)
    (hservable : ∀ name m, w.models.find? name = some m → m.Servable)
    (hmemory : w.device.nextAddress + w.device.span w.plan.stack +
      w.device.span w.plan.activations < Word.limit)
    (hlimit : w.device.lastHandle + 2 * w.keys.length < Word.limit) :
    w.build.1 = .ok () ∧ w.keys.Pairwise (· < ·) ∧
      w.build.2.device.events = w.device.events ++
        [.allocate ⟨w.device.nextAddress⟩ w.plan.stack,
          .allocate ⟨w.device.nextAddress + w.device.span w.plan.stack⟩ w.plan.activations] ++
        (List.range' w.device.lastHandle w.keys.length 2).flatMap (fun handle =>
          [.beginCapture w.device.captureMode, .endCapture (handle + 1) 1,
            .instantiate (handle + 1) (handle + 2)]) ∧
      ∀ i key, w.keys[i]? = some key →
        ∃ ops, w.build.2.graphs.find? key = some ⟨w.device.lastHandle + 2 * i + 1, ops⟩ ∧
          w.build.2.executor key = .ok ⟨w.device.lastHandle + 2 * i + 2, ops⟩ := by
  have hd : w.device.Willing := by
    refine ⟨hcapture, harmed _ ?_, harmed _ ?_, harmed _ ?_⟩ <;> decide
  have hsome : ¬w.models.entries.isEmpty := by
    obtain ⟨m, hm⟩ := Option.isSome_iff_exists.1 hname
    have hmem := Table.mem_of_find? hm
    intro hempty
    rw [List.isEmpty_iff.1 hempty] at hmem
    exact List.not_mem_nil hmem
  obtain ⟨hok, hevents, hserved⟩ := (build_builds w).eq_ok hw.registry hw.bare hp hsome hd
    (harmed _ List.mem_cons_self) hservable hmemory hlimit
  refine ⟨hok, hw.registry.ordered, hevents, fun i key hi => ?_⟩
  obtain ⟨ops, hgraph, hexecutor⟩ := hserved i key hi
  exact ⟨ops, hgraph, executor_eq_ok_iff.2 hexecutor⟩

/-- Three keys of one model are built on a device whose memory begins off its alignment. -/
theorem sample_build_completes :
    sample.phase = .registering ∧ sample.isRegistered "a" ∧ sample.build.1 = .ok () ∧
      sample.build.2.device.events =
        [.allocate ⟨1000⟩ 131072, .allocate ⟨132328⟩ 131072,
          .beginCapture .relaxed, .endCapture 1 1, .instantiate 1 2,
          .beginCapture .relaxed, .endCapture 3 1, .instantiate 3 4,
          .beginCapture .relaxed, .endCapture 5 1, .instantiate 5 6] := by
  have hp : sample.phase = .registering := by decide +kernel
  have hname : sample.isRegistered "a" := by decide +kernel
  have hmodels : sample.models.entries = [("a", .sample), ("b", .sample)] := by decide +kernel
  have hservable : ∀ name m, sample.models.find? name = some m → m.Servable := by
    intro name m hm
    have hmem := Table.mem_of_find? hm
    rw [hmodels] at hmem
    obtain rfl : m = .sample := by simp at hmem; tauto
    exact ⟨Model.sample_truthful, rfl, by decide⟩
  obtain ⟨hok, -, hevents, -⟩ := build_completes sample_reachable hp hname (by decide +kernel)
    (by decide +kernel) hservable (by decide +kernel) (by decide +kernel)
  refine ⟨hp, hname, hok, hevents.trans ?_⟩
  decide +kernel

end Workspace

end GraphReplay
