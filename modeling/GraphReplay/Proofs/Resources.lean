import GraphReplay.Proofs.Ownership
import GraphReplay.Proofs.Serving

/-!
# What a build leaves on its device

A build can be given up in many places, each with other things done. Whatever
comes of it, it leaves the device in order: a capture is open only if one was open
before, nothing ran, and what is there now and was not there before is in the
hands of the workspace. There is one exception (`strandedBy`). If a launch is
refused, its capture is ended and the graph that comes of it is destroyed; if the
device refuses to destroy it, nobody has it.

* `Adds`: what a capture or an instantiation adds to a device;
* `Accounted`: everything that was added is kept by the workspace;
* `build_accounts`: so it is after every build.
-/

namespace GraphReplay

/-! ## Devices -/

namespace Device

variable {d d' d'' : Device} {graphs executors : List Nat}

/-- How many graphs a build leaves on the device that nobody has: one, if a launch is refused and
    the capture can be ended but what it recorded cannot be destroyed. -/
def strandedBy (d : Device) : Except Abort Unit → Nat
  | .error (.fatal (.model _ _)) => if .destroyGraph ∈ d.armed ∧ .endCapture ∉ d.armed then 1 else 0
  | _ => 0

/-- Only the refusal of a model strands a graph. -/
theorem strandedBy_ofFailure {ε : Type} (d : Device) {wrap : ε → FatalError}
    (hwrap : ∀ e name x, wrap e ≠ .model name x) (f : Failure ε) :
    d.strandedBy (.error (.ofFailure wrap f)) = 0 := by
  cases f with
  | defect x => rfl
  | error e =>
    rw [Abort.ofFailure, strandedBy]
    intro name x h
    injection h with h
    injection h with h
    exact hwrap e name x h

theorem strandedBy_congr (h : d'.armed = d.armed) (r : Except Abort Unit) :
    d'.strandedBy r = d.strandedBy r := by
  simp only [strandedBy, h]

/-- Nothing but these graphs and executors was added to what is live, and nothing ran. -/
structure Adds (d : Device) (graphs executors : List Nat) (d' : Device) : Prop where
  capture : d'.capture = d.capture
  executed : d'.executed = d.executed
  graphs : d'.liveGraphs = d.liveGraphs ++ graphs
  executors : d'.liveExecutors = d.liveExecutors ++ executors

/-- A call that fails adds nothing. -/
theorem adds_of_guarded {α : Type} {p : FaultPoint}
    {attempt : Except (Failure DeviceError) (α × Device)} {f : Failure DeviceError}
    (h : d.guarded p attempt = (.error f, d')) : d.Adds [] [] d' := by
  obtain ⟨armed, rfl⟩ := guarded_eq_error h
  exact ⟨rfl, rfl, (List.append_nil _).symm, (List.append_nil _).symm⟩

theorem adds_allocate {bytes : Nat} {b : Buffer} (h : d.allocate bytes = (.ok b, d')) :
    d.Adds [] [] d' ∧ d'.armed = d.armed := by
  obtain ⟨-, -, -, rfl⟩ := allocate_eq_ok_iff.1 h
  exact ⟨⟨rfl, rfl, (List.append_nil _).symm, (List.append_nil _).symm⟩, rfl⟩

theorem adds_instantiate {g : Graph} {e : Executor} (h : d.instantiate g = (.ok e, d')) :
    d.Adds [] [e.id] d' ∧ d'.armed = d.armed := by
  obtain ⟨-, -, -, rfl, rfl⟩ := instantiate_eq_ok_iff.1 h
  exact ⟨⟨rfl, rfl, (List.append_nil _).symm, rfl⟩, rfl⟩

/-- An error that the call itself does not give comes of a fault. -/
theorem armed_of_guarded {α : Type} {p : FaultPoint}
    {attempt : Except (Failure DeviceError) (α × Device)} {x : DeviceError}
    (hattempt : attempt ≠ .error (.error x)) (h : d.guarded p attempt = (.error (.error x), d')) :
    p ∈ d.armed := by
  rcases guarded_cases d p attempt with ⟨hp, -⟩ | ⟨-, f, hf, hg⟩ | ⟨-, a, d₁, -, hg⟩
  · exact hp
  · cases hg.symm.trans h
    exact absurd hf hattempt
  · cases hg.symm.trans h

/-- An open capture comes to an error of the device only by a fault. -/
theorem armed_of_endCapture {ops : List Op} (hcapture : d.capture = some ops) {x : DeviceError}
    (h : d.endCapture = (.error (.error x), d')) : .endCapture ∈ d.armed := by
  rw [endCapture, hcapture] at h
  refine armed_of_guarded (d := { d with capture := none }) (fun hattempt => ?_) h
  rcases hid : newHandle { d with capture := none } with e | id <;> rw [hid] at hattempt <;>
    cases hattempt

/-! ### Open captures -/

/-- The second device is the first one with a capture open. -/
def Recording (d d' : Device) : Prop :=
  d.capture = none ∧ ∃ ops events, d' = { d with capture := some ops, events := events }

theorem recording_of_beginCapture {mode : CaptureMode} (h : d.beginCapture mode = (.ok (), d')) :
    d.Recording d' := by
  obtain ⟨-, hcapture, rfl⟩ := beginCapture_eq_ok_iff.1 h
  exact ⟨hcapture, [], _, rfl⟩

theorem Recording.enqueue (h : d.Recording d') (op : Op) : d.Recording (d'.enqueue op) := by
  obtain ⟨hcapture, ops, events, rfl⟩ := h
  exact ⟨hcapture, ops ++ [op], events, rfl⟩

/-- A capture that becomes a graph adds this graph, and it is new. -/
theorem Recording.made (h : d.Recording d') {g : Graph} (hend : d'.endCapture = (.ok g, d'')) :
    d.Adds [g.id] [] d'' ∧ d''.armed = d.armed ∧ g.id = d.lastHandle + 1 := by
  obtain ⟨hcapture, ops, events, rfl⟩ := h
  obtain ⟨_, -, -, -, rfl, rfl⟩ := endCapture_eq_ok_iff.1 hend
  exact ⟨⟨hcapture.symm, rfl, rfl, (List.append_nil _).symm⟩, rfl, rfl⟩

theorem Recording.lost (h : d.Recording d') {f : Failure DeviceError}
    (hend : d'.endCapture = (.error f, d'')) : d.Adds [] [] d'' := by
  obtain ⟨hcapture, ops, events, rfl⟩ := h
  obtain ⟨armed, rfl⟩ := endCapture_eq_error hend
  exact ⟨hcapture.symm, rfl, (List.append_nil _).symm, (List.append_nil _).symm⟩

/-- A new graph that is destroyed leaves nothing, unless the device will not destroy it. -/
theorem Adds.destroyGraph {g : Graph} (h : d.Adds [g.id] [] d') (hnew : g.id ∉ d.liveGraphs) :
    d.Adds (if .destroyGraph ∈ d'.armed then [g.id] else []) [] (d'.destroyGraph g).2 := by
  have hlive : g.id ∈ d'.liveGraphs := h.graphs ▸ List.mem_append_right _ List.mem_cons_self
  split
  · next hp =>
    have hrefused : d'.destroyGraph g =
        (.error (.error (.injected .destroyGraph)), d'.disarm .destroyGraph) := if_pos hp
    rw [hrefused]
    exact ⟨h.capture, h.executed, h.graphs, h.executors⟩
  · next hp =>
    have hdestroyed : d'.destroyGraph g = (.ok (), d'.without g.handle) :=
      destroyGraph_eq_ok_iff.2 ⟨hp, hlive, rfl⟩
    rw [hdestroyed]
    refine ⟨h.capture, h.executed, ?_, h.executors⟩
    have hothers : ∀ id ∈ d.liveGraphs, id ≠ g.id := fun id hid heq => hnew (heq ▸ hid)
    simpa [Graph.handle, without, record, h.graphs] using hothers

/-- What is left of a capture that was opened for a launch that is refused. -/
theorem Recording.abandoned (h : d.Recording d') (hd : d.books.Tallied) (name : String)
    (e : ModelError) :
    ∃ stranded, stranded.length = d.strandedBy (.error (Workspace.abandoned d' name e).1) ∧
      d.Adds stranded [] (Workspace.abandoned d' name e).2 := by
  rw [Workspace.abandoned]
  rcases hend : d'.endCapture with ⟨(x | x) | g, d''⟩
  · -- The capture was closed by a fault, so this is not the exception.
    have harmed : .endCapture ∈ d.armed := by
      obtain ⟨-, ops, events, rfl⟩ := h
      exact armed_of_endCapture (d := { d with capture := some ops, events := events }) rfl hend
    exact ⟨[], (if_neg fun hne => hne.2 harmed).symm, h.lost hend⟩
  · exact ⟨[], rfl, h.lost hend⟩
  · obtain ⟨hadds, harmed, hid⟩ := h.made hend
    have hnew : g.id ∉ d.liveGraphs := fun hlive => by
      have hle : g.id ≤ d.lastHandle := hd.id_le (h := g.handle) hlive
      exact Nat.not_succ_le_self _ (hid ▸ hle)
    have hunarmed : .endCapture ∉ d.armed := by
      obtain ⟨-, ops, events, rfl⟩ := h
      obtain ⟨_, -, hunarmed, -⟩ := endCapture_eq_ok_iff.1 hend
      exact hunarmed
    refine ⟨_, ?_, hadds.destroyGraph hnew⟩
    by_cases hp : .destroyGraph ∈ d.armed <;> simp [strandedBy, harmed, hp, hunarmed]

end Device

/-! ## Captures -/

namespace Workspace

variable {w w' : Workspace} {key : Key} {m : Model} {mode : CaptureMode} {scratch : Address}
variable {held : List Buffer} {c : Context} {ps : List Address} {d d' : Device}
variable {stranded : List Nat}

theorem Captures.adds_of_ok {g : Graph} (h : Captures mode key c ps d (.ok g) d') :
    d.Adds [g.id] [] d' ∧ d'.armed = d.armed := by
  cases h with
  | captured hbegin _ hend =>
    obtain ⟨hadds, harmed, -⟩ := ((Device.recording_of_beginCapture hbegin).enqueue _).made hend
    exact ⟨hadds, harmed⟩

theorem Captures.adds_of_error {x : Abort} (hd : d.books.Tallied)
    (h : Captures mode key c ps d (.error x) d') :
    ∃ stranded, stranded.length = d.strandedBy (.error x) ∧ d.Adds stranded [] d' := by
  cases h with
  | notBegun hbegin =>
    exact ⟨[], (d.strandedBy_ofFailure nofun _).symm, Device.adds_of_guarded hbegin⟩
  | refused hbegin _ => exact (Device.recording_of_beginCapture hbegin).abandoned hd _ _
  | notEnded hbegin _ hend =>
    have hlost := ((Device.recording_of_beginCapture hbegin).enqueue _).lost hend
    exact ⟨[], (d.strandedBy_ofFailure nofun _).symm, hlost⟩

/-- Since the device was `d`, nothing was added to it but what the workspace keeps, and `stranded`;
    no capture was left open, and nothing ran. -/
structure Accounted (d : Device) (stranded : List Nat) (w : Workspace) : Prop where
  capture : w.device.capture = d.capture
  executed : w.device.executed = d.executed
  graphs : w.device.liveGraphs.Perm (d.liveGraphs ++ w.graphs.entries.map (·.2.id) ++ stranded)
  executors : w.device.liveExecutors.Perm (d.liveExecutors ++ w.executors.entries.map (·.2.id))

theorem accounted_of_empty (hgraphs : w.graphs = {}) (hexecutors : w.executors = {})
    (h : d.Adds [] [] w.device) : Accounted d [] w := by
  refine ⟨h.capture, h.executed, ?_, ?_⟩
  · rw [hgraphs, h.graphs]
    simp
  · rw [hexecutors, h.executors]
    simp

theorem Accounted.strands (hw : Accounted d [] w) (h : w.device.Adds stranded [] d') :
    Accounted d stranded { w with device := d' } where
  capture := h.capture.trans hw.capture
  executed := h.executed.trans hw.executed
  graphs := by
    rw [h.graphs]
    simpa using hw.graphs.append_right stranded
  executors := by
    rw [h.executors, List.append_nil]
    exact hw.executors

/-- A new graph goes to the table of graphs. -/
theorem Accounted.keeping {g : Graph} (hw : Accounted d [] w) (hkey : w.graphs.find? key = none)
    (h : w.device.Adds [g.id] [] d') : Accounted d [] (w.keeping key g d') where
  capture := h.capture.trans hw.capture
  executed := h.executed.trans hw.executed
  graphs := by
    rw [List.append_nil]
    have hgraphs := Table.perm_insert hkey (a := g) (·.2.id) (List.append_nil _ ▸ hw.graphs)
    exact h.graphs ▸ hgraphs
  executors := by
    rw [Workspace.keeping, h.executors, List.append_nil]
    exact hw.executors

/-- A new executor goes to the table of executors. -/
theorem Accounted.serves {e : Executor} (hw : Accounted d [] w)
    (hkey : w.executors.find? key = none) (h : w.device.Adds [] [e.id] d') :
    Accounted d [] { w with device := d', executors := w.executors.insert key e } where
  capture := h.capture.trans hw.capture
  executed := h.executed.trans hw.executed
  graphs := by
    rw [h.graphs, List.append_nil]
    exact hw.graphs
  executors := h.executors ▸ Table.perm_insert hkey (a := e) (·.2.id) hw.executors

/-! ## Keys -/

/-- Placing tensors does not concern the device, nor what is kept of it. -/
theorem Places.accounted {r : Except Abort (List Address)} (hw : Accounted d [] w)
    (h : Places key.name m (w.prepared key c scratch) r w') : Accounted d [] w' where
  capture := h.device_eq ▸ hw.capture
  executed := h.device_eq ▸ hw.executed
  graphs := h.device_eq ▸ h.graphs_eq ▸ hw.graphs
  executors := h.device_eq ▸ h.executors_eq ▸ hw.executors

/-- A placing that fails strands nothing. -/
theorem Places.strandedBy_eq {x : Abort} (h : Places key.name m w (.error x) w') :
    d.strandedBy (.error x) = 0 := by
  cases h with
  | unlaid _ _ _ => exact d.strandedBy_ofFailure nofun _
  | stackless _ _ => rfl

/-- What is added for a key that is new is kept, also if the key is given up. -/
theorem BuildsKey.accounted {r : Except Abort Unit} (hw : Accounted d [] w)
    (harmed : w.device.armed = d.armed) (hd : w.device.books.Tallied)
    (hgraph : w.graphs.find? key = none) (hexecutor : w.executors.find? key = none)
    (h : BuildsKey mode scratch key m w r w') :
    (∃ stranded, stranded.length = d.strandedBy r ∧ Accounted d stranded w') ∧
      (r = .ok () → w'.device.armed = d.armed) := by
  cases h with
  | contextless _ => exact ⟨⟨[], rfl, hw.capture, hw.executed, hw.graphs, hw.executors⟩, nofun⟩
  | unplaced _ hp => exact ⟨⟨[], hp.strandedBy_eq.symm, hp.accounted hw⟩, nofun⟩
  | uncaptured _ hp hcap =>
    have hdevice : _ = w.device := hp.device_eq
    obtain ⟨stranded, hlength, hadds⟩ := hcap.adds_of_error (hdevice ▸ hd)
    rw [hdevice, Device.strandedBy_congr harmed] at hlength
    exact ⟨⟨stranded, hlength, (hp.accounted hw).strands hadds⟩, nofun⟩
  | @uninstantiated c ps w₁ g d₁ d₂ f _ hp hcap hi =>
    have hkey : w₁.graphs.find? key = none := hp.graphs_eq ▸ hgraph
    have hkept := (hp.accounted hw).keeping hkey hcap.adds_of_ok.1
    have hadds := Device.adds_of_guarded hi
    exact ⟨⟨[], (d.strandedBy_ofFailure nofun _).symm, hkept.strands hadds⟩, nofun⟩
  | @built c ps w₁ g d₁ d₂ e _ hp hcap hi =>
    have hkey : w₁.graphs.find? key = none := hp.graphs_eq ▸ hgraph
    obtain ⟨hcaptured, harmed₁⟩ := hcap.adds_of_ok
    obtain ⟨hadds, harmed₂⟩ := Device.adds_instantiate hi
    have hkept := (hp.accounted hw).keeping hkey hcaptured
    have hnew : (w₁.keeping key g d₁).executors.find? key = none := hp.executors_eq ▸ hexecutor
    have hdevice : w₁.device = w.device := hp.device_eq
    exact ⟨⟨[], rfl, hkept.serves hnew hadds⟩,
      fun _ => harmed₂.trans (harmed₁.trans (hdevice ▸ harmed))⟩

/-- So it is for all keys of a build, by induction on them: each of them is new. -/
theorem BuildsKeys.accounted {entries : List (Key × Model)} {r : Except Abort Unit}
    (h : BuildsKeys mode scratch entries w r w') (hw : Accounted d [] w)
    (harmed : w.device.armed = d.armed) (hd : w.device.books.Sound held)
    (hdistinct : (entries.map (·.1)).Nodup)
    (hnew : ∀ key ∈ entries.map (·.1),
      w.graphs.find? key = none ∧ w.executors.find? key = none) :
    ∃ stranded, stranded.length = d.strandedBy r ∧ Accounted d stranded w' := by
  induction h with
  | nil => exact ⟨[], rfl, hw⟩
  | stop hkey =>
    obtain ⟨hgraph, hexecutor⟩ := hnew _ List.mem_cons_self
    exact (hkey.accounted hw harmed hd.tallied hgraph hexecutor).1
  | @cons key m rest w w₁ w' r hkey _ ih =>
    obtain ⟨hgraph, hexecutor⟩ := hnew _ List.mem_cons_self
    obtain ⟨⟨stranded, hlength, hw₁⟩, harmed₁⟩ :=
      hkey.accounted hw harmed hd.tallied hgraph hexecutor
    -- A key that is built strands nothing, so the others start from where it started.
    obtain rfl : stranded = [] := List.eq_nil_of_length_eq_zero hlength
    rw [List.map_cons, List.nodup_cons] at hdistinct
    refine ih hw₁ (harmed₁ rfl) (hkey.called.sound hd) hdistinct.2 fun key' hkey' => ?_
    have hne : key' ≠ key := fun heq => hdistinct.1 (heq ▸ hkey')
    rw [(hkey.find?_of_ne hne).1, (hkey.find?_of_ne hne).2]
    exact hnew key' (List.mem_cons_of_mem _ hkey')

/-! ## Builds -/

/-- What a build adds to its device is kept. -/
theorem Builds.accounted {r : Except Abort Unit} (hreg : w.Registry)
    (hp : w.phase = .registering) (hbare : w.Bare) (hd : w.device.Shared held)
    (h : Builds w r w') :
    ∃ stranded, stranded.length = w.device.strandedBy r ∧ Accounted w.device stranded w' := by
  have hnone : Accounted w.device [] w :=
    accounted_of_empty hbare.graphs hbare.executors
      ⟨rfl, rfl, (List.append_nil _).symm, (List.append_nil _).symm⟩
  have hkeys {s : BindingStack} {a : ActivationSpace} {d d' : Device} {answer : Except Abort Unit}
      {w' : Workspace} (hs : BindingStack.create w.device w.plan.stack = (.ok s, d))
      (ha : ActivationSpace.create d w.plan.activations = (.ok a, d'))
      (hkeys : BuildsKeys d'.captureMode a.base w.modelsByKey.entries
        (w.furnished s a d d') answer w') :
      ∃ stranded, stranded.length = w.device.strandedBy answer ∧
        Accounted w.device stranded w' := by
    obtain ⟨hstack, harmed⟩ := Device.adds_allocate (BindingStack.allocate_of_create hs)
    obtain ⟨hboth, harmed'⟩ := Device.adds_allocate (ActivationSpace.create_eq_ok_iff.1 ha)
    -- The allocations add no handle, and the tables are still empty.
    have hfurnished : Accounted w.device [] (w.furnished s a d d') := by
      have hw := (hnone.strands hstack).strands hboth
      exact ⟨hw.capture, hw.executed, hw.graphs, hw.executors⟩
    refine hkeys.accounted hfurnished (harmed'.trans harmed)
      (shared_furnished hd hs ha).sound hreg.ordered.nodup fun key _ => ?_
    have hgraphs : (w.furnished s a d d').graphs = {} := hbare.graphs
    have hexecutors : (w.furnished s a d d').executors = {} := hbare.executors
    rw [hgraphs, hexecutors]
    exact ⟨rfl, rfl⟩
  cases h with
  | again hbuilt => cases hp.symm.trans hbuilt
  | empty _ _ => exact ⟨[], rfl, hnone.capture, hnone.executed, hnone.graphs, hnone.executors⟩
  | noStack _ _ hs =>
    have hw := hnone.strands (Device.adds_of_guarded (BindingStack.allocate_of_create_error hs))
    exact ⟨[], (Device.strandedBy_ofFailure _ nofun _).symm, hw.capture, hw.executed, hw.graphs,
      hw.executors⟩
  | noActivations _ _ hs ha =>
    have hstack := (Device.adds_allocate (BindingStack.allocate_of_create hs)).1
    have hw := (hnone.strands hstack).strands
      (Device.adds_of_guarded (ActivationSpace.allocate_of_create_error ha))
    exact ⟨[], (Device.strandedBy_ofFailure _ nofun _).symm, hw.capture, hw.executed, hw.graphs,
      hw.executors⟩
  | stopped _ _ hs ha h => exact hkeys hs ha h
  | finished _ _ hs ha h =>
    obtain ⟨stranded, hlength, hw⟩ := hkeys hs ha h
    exact ⟨stranded, hlength, hw.capture, hw.executed, hw.graphs, hw.executors⟩

/-- Whatever comes of a build, it loses nothing of its device. A capture is open only if one was
    open before, and nothing ran. Of allocations, executors and graphs, there are as many more as
    the workspace has now, apart from a graph that is stranded; what the workspace has is live, and
    so is what was live before. -/
theorem build_accounts (hw : w.Reachable held) (hp : w.phase = .registering) :
    w.build.2.device.capture = w.device.capture ∧
      w.build.2.device.executed = w.device.executed ∧
      w.build.2.device.liveBuffers = w.device.liveBuffers + w.build.2.owned.length ∧
      w.build.2.device.liveExecutors.length =
        w.device.liveExecutors.length + w.build.2.executors.size ∧
      w.build.2.device.liveGraphs.length =
        w.device.liveGraphs.length + w.build.2.graphs.size + w.device.strandedBy w.build.1 ∧
      (∀ id ∈ w.device.liveExecutors ++ w.build.2.executors.entries.map (·.2.id),
        id ∈ w.build.2.device.liveExecutors) ∧
      ∀ id ∈ w.device.liveGraphs ++ w.build.2.graphs.entries.map (·.2.id),
        id ∈ w.build.2.device.liveGraphs := by
  have hbare := hw.bare hp
  have hbefore := hw.sound.covers.count
  have hafter := hw.build.sound.covers.count
  rw [owned_of_bare hbare, List.append_nil] at hbefore
  rw [List.length_append, ← hbefore] at hafter
  obtain ⟨stranded, hlength, h⟩ := (build_builds w).accounted hw.registry hp hbare hw.shared
  have hexecutors := h.executors.length_eq
  have hgraphs := h.graphs.length_eq
  rw [List.length_append, List.length_map] at hexecutors
  rw [List.length_append, List.length_append, List.length_map, hlength] at hgraphs
  exact ⟨h.capture, h.executed, hafter, hexecutors, hgraphs,
    fun id hid => h.executors.mem_iff.2 hid,
    fun id hid => h.graphs.mem_iff.2 (List.mem_append_left _ hid)⟩

/-- The sample workspace with one more key, whose model refuses to be launched, on a device that
    will not destroy a graph. -/
def refused : Workspace :=
  let m : Model := { Model.sample with label := "r", failsEnqueue := true }
  let w := (sample.register {} "z" m 1).2.2
  { w with device := w.device.arm .destroyGraph }

theorem refused_reachable : refused.Reachable [] :=
  .device (sample_reachable.register _ _ _ _) (.call _ _ (.arm .destroyGraph))

/-- Three keys are built, and of the fourth there is a graph that nobody has. -/
theorem refused_build_accounts :
    refused.phase = .registering ∧
      refused.build.1 = .error (.fatal (.model "z" (.rejected "z::forward"))) ∧
      refused.build.2.graphs.size = 3 ∧ refused.device.liveGraphs.length = 0 ∧
      refused.build.2.device.liveGraphs.length = 0 + 3 + 1 ∧
      refused.build.2.device.liveExecutors.length = 0 + 3 := by
  have hp : refused.phase = .registering := by decide +kernel
  have hbuild : refused.build.1 = .error (.fatal (.model "z" (.rejected "z::forward"))) := by
    decide +kernel
  have hsize : refused.build.2.graphs.size = 3 := by decide +kernel
  have hsize' : refused.build.2.executors.size = 3 := by decide +kernel
  have hbefore : refused.device.liveGraphs.length = 0 := by decide +kernel
  have hbefore' : refused.device.liveExecutors.length = 0 := by decide +kernel
  have hstranded : refused.device.strandedBy refused.build.1 = 1 := by decide +kernel
  obtain ⟨-, -, -, hexecutors, hgraphs, -, -⟩ := build_accounts refused_reachable hp
  rw [hsize, hbefore, hstranded] at hgraphs
  rw [hsize', hbefore'] at hexecutors
  exact ⟨hp, hbuild, hsize, hbefore, hgraphs, hexecutors⟩

end Workspace

end GraphReplay
