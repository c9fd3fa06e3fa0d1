import GraphReplay.Proofs.Resources
import GraphReplay.Workspace.Teardown

/-!
# What a teardown does

A teardown destroys the executors and then the graphs, each of them unless the
device refuses one before it. So what it destroys is known from the device that
it finds: everything up to the first handle that cannot be destroyed there.

* `destroyAll_eq_ok`, `destroyAll_eq_error`: destroying handles in turn goes so far and
  no further;
* `dismantle_on`: so does the teardown, if the stream comes to rest at all;
* `drop_disposes`: what is in the log after it, what is released, and when it
  aborts.
-/

namespace GraphReplay

/-! ## What the log tells of memory -/

namespace Event

theorem freedIn_append (log log' : List Event) :
    freedIn (log ++ log') = freedIn log ++ freedIn log' :=
  List.filterMap_append

theorem freedIn_destroying (hs : List Handle) : freedIn (hs.map .destroying) = [] := by
  simp [freedIn]

theorem freedIn_free (bs : List Buffer) :
    freedIn (bs.map (.free ·.address)) = bs.map (·.address) := by
  simp [freedIn, freed?, Function.comp_def]

end Event

/-! ## Destroying one handle -/

/-- The call that destroys handles of this kind. -/
def Kind.point : Kind → FaultPoint
  | .graph => .destroyGraph
  | .executor => .destroyExecutor

namespace Device

variable {d d' : Device} {h h' : Handle} {hs : List Handle}

/-- Destroy a graph or an executor by its number. -/
def destroy (d : Device) : Handle → Answer Unit
  | ⟨.graph, id⟩ => d.destroyGraph ⟨id, []⟩
  | ⟨.executor, id⟩ => d.destroyExecutor ⟨id, []⟩

/-- The device would destroy the handle: it is live, and no fault is armed. -/
def CanDestroy (d : Device) (h : Handle) : Prop := h.kind.point ∉ d.armed ∧ d.books.Has h

instance (d : Device) (h : Handle) : Decidable (d.CanDestroy h) :=
  inferInstanceAs (Decidable (h.kind.point ∉ d.armed ∧ h.id ∈ d.books.live h.kind))

theorem destroy_eq_ok (hh : d.CanDestroy h) : d.destroy h = (.ok (), d.without h) := by
  obtain ⟨_ | _, id⟩ := h
  · exact destroyGraph_eq_ok_iff.2 ⟨hh.1, hh.2, rfl⟩
  · exact destroyExecutor_eq_ok_iff.2 ⟨hh.1, hh.2, rfl⟩

/-- A call that neither can be made nor succeeds uses up a fault at most. -/
theorem guarded_eq_error_of_not {α : Type} {p : FaultPoint} {c : Prop} [Decidable c]
    {a : α × Device} {e : DeviceError} (h : ¬(p ∉ d.armed ∧ c)) :
    ∃ x armed, d.guarded p (if c then .ok a else .error (.error e)) =
      (.error (.error x), { d with armed := armed }) := by
  by_cases hp : p ∈ d.armed
  · exact ⟨_, _, if_pos hp⟩
  · rw [if_neg fun hc => h ⟨hp, hc⟩]
    exact ⟨_, _, if_neg hp⟩

theorem destroy_eq_error (hh : ¬d.CanDestroy h) :
    ∃ e armed, d.destroy h = (.error (.error e), { d with armed := armed }) := by
  obtain ⟨_ | _, id⟩ := h
  · exact guarded_eq_error_of_not hh
  · exact guarded_eq_error_of_not hh

/-- The device without some handles. -/
def withoutAll (d : Device) (hs : List Handle) : Device :=
  { d with
    liveGraphs := d.liveGraphs.filter fun id => ⟨.graph, id⟩ ∉ hs
    liveExecutors := d.liveExecutors.filter fun id => ⟨.executor, id⟩ ∉ hs
    events := d.events ++ hs.map .destroying }

theorem withoutAll_nil (d : Device) : d.withoutAll [] = d := by
  simp [withoutAll]

theorem withoutAll_without (d : Device) (h : Handle) (hs : List Handle) :
    (d.without h).withoutAll hs = d.withoutAll (h :: hs) := by
  obtain ⟨_ | _, id⟩ := h <;>
    simp [withoutAll, without, record, Event.destroying, List.filter_filter, Bool.and_comm]

theorem withoutAll_append (d : Device) (hs hs' : List Handle) :
    (d.withoutAll hs).withoutAll hs' = d.withoutAll (hs ++ hs') := by
  simp [withoutAll, List.filter_filter, Bool.and_comm]

theorem canDestroy_without (hne : h' ≠ h) : (d.without h).CanDestroy h' ↔ d.CanDestroy h' := by
  obtain ⟨_ | _, id⟩ := h <;> obtain ⟨_ | _, id'⟩ := h' <;>
    simp_all [CanDestroy, without, record, Books.Has, books]

theorem canDestroy_withoutAll (hh : h ∉ hs) : (d.withoutAll hs).CanDestroy h ↔ d.CanDestroy h := by
  obtain ⟨_ | _, id⟩ := h <;> simp [CanDestroy, withoutAll, Books.Has, books, hh]

/-- Of what was live, as much is gone as was destroyed. -/
theorem length_live_withoutAll (hlive : ∀ k, (d.books.live k).Nodup) (hdistinct : hs.Nodup)
    (hhas : ∀ h ∈ hs, d.books.Has h) (k : Kind) :
    ((d.withoutAll hs).books.live k).length + (hs.filter (·.kind = k)).length =
      (d.books.live k).length := by
  have hkept : (d.withoutAll hs).books.live k =
      (d.books.live k).filter fun id => !decide (Handle.mk k id ∈ hs) := by
    cases k <;> simp [withoutAll, books]
  -- What is gone is what was destroyed, in another order: no number is in either of them twice.
  have hgone : ((d.books.live k).filter fun id => Handle.mk k id ∈ hs).Perm
      ((hs.filter (·.kind = k)).map Handle.id) := by
    refine (List.perm_ext_iff_of_nodup ((hlive k).filter _) ?_).2 fun id => ?_
    · refine List.Nodup.map_on (fun h hh h' hh' hid => ?_) (hdistinct.filter _)
      have hk := of_decide_eq_true (List.mem_filter.1 hh).2
      have hk' := of_decide_eq_true (List.mem_filter.1 hh').2
      cases h
      cases h'
      simp_all
    · simp only [List.mem_filter, List.mem_map, decide_eq_true_eq]
      constructor
      · rintro ⟨-, hmem⟩
        exact ⟨_, ⟨hmem, rfl⟩, rfl⟩
      · rintro ⟨h, ⟨hmem, rfl⟩, rfl⟩
        exact ⟨hhas h hmem, hmem⟩
  have hlength := hgone.length_eq
  rw [List.length_map] at hlength
  rw [hkept, ← hlength, Nat.add_comm, ← List.length_eq_length_filter_add]

end Device

namespace Workspace

open Procedure

variable {w w' : Workspace} {held : List Buffer} {d d' : Device}

/-! ## Destroying handles in turn -/

/-- Of a list whose images are cut in two, the first part. -/
theorem prefix_of_map_eq {α β : Type} {f : α → β} {l : List α} {front rest : List β} {b : β}
    (h : l.map f = front ++ b :: rest) : ∃ xs, xs <+: l ∧ xs ≠ l ∧ xs.map f = front := by
  obtain ⟨xs, ys, rfl, hxs, hys⟩ := List.map_eq_append_iff.1 h
  refine ⟨xs, List.prefix_append xs ys, fun heq => ?_, hxs⟩
  rw [List.self_eq_append_right.1 heq] at hys
  cases hys

/-- Destroy some handles in turn. -/
def destroyAll (task : DeviceTask) : List Handle → Procedure Unit
  | [] => return
  | h :: rest => do
    callDevice task (·.destroy h)
    destroyAll task rest

theorem destroyExecutors_eq (executors : List (Key × Executor)) :
    destroyExecutors executors =
      destroyAll .destroyExecutor (executors.map (·.2.handle)) := by
  induction executors with
  | nil => rfl
  | cons x rest ih =>
    rw [destroyExecutors, ih]
    rfl

theorem destroyGraphs_eq (graphs : List (Key × Graph)) :
    destroyGraphs graphs = destroyAll .destroyGraph (graphs.map (·.2.handle)) := by
  induction graphs with
  | nil => rfl
  | cons g rest ih =>
    rw [destroyGraphs, ih]
    rfl

theorem destroyAll_eq_ok (task : DeviceTask) {hs : List Handle} (hdistinct : hs.Nodup)
    (hcan : ∀ h ∈ hs, w.device.CanDestroy h) :
    (destroyAll task hs).on w = (.ok (), { w with device := w.device.withoutAll hs }) := by
  induction hs generalizing w with
  | nil =>
    rw [Device.withoutAll_nil]
    rfl
  | cons h hs ih =>
    obtain ⟨hnot, hdistinct⟩ := List.nodup_cons.1 hdistinct
    have hdestroyed := Device.destroy_eq_ok (hcan h List.mem_cons_self)
    rw [destroyAll, on_bind_ok (on_callDevice_ok hdestroyed), ← Device.withoutAll_without]
    refine ih hdistinct fun h' hmem => ?_
    have hne : h' ≠ h := fun heq => hnot (heq ▸ hmem)
    exact (Device.canDestroy_without hne).2 (hcan h' (List.mem_cons_of_mem _ hmem))

/-- If some handle cannot be destroyed, those in front of the first such handle are. -/
theorem destroyAll_eq_error (task : DeviceTask) {hs : List Handle} (hdistinct : hs.Nodup)
    (hcannot : ¬∀ h ∈ hs, w.device.CanDestroy h) :
    ∃ gone h rest e armed, hs = gone ++ h :: rest ∧
      (destroyAll task hs).on w = (.error (.fatal e),
        { w with device := { w.device.withoutAll gone with armed := armed } }) := by
  induction hs generalizing w with
  | nil => exact absurd (fun h hmem => absurd hmem List.not_mem_nil) hcannot
  | cons h hs ih =>
    obtain ⟨hnot, hdistinct⟩ := List.nodup_cons.1 hdistinct
    rw [destroyAll]
    by_cases hh : w.device.CanDestroy h
    · have hrest : ¬∀ h' ∈ hs, (w.device.without h).CanDestroy h' := by
        refine fun hall => hcannot (List.forall_mem_cons.2 ⟨hh, fun h' hmem => ?_⟩)
        have hne : h' ≠ h := fun heq => hnot (heq ▸ hmem)
        exact (Device.canDestroy_without hne).1 (hall h' hmem)
      obtain ⟨gone, h', rest, e, armed, hsplit, hon⟩ :=
        ih (w := { w with device := w.device.without h }) hdistinct hrest
      refine ⟨h :: gone, h', rest, e, armed, congrArg (h :: ·) hsplit, ?_⟩
      rw [on_bind_ok (on_callDevice_ok (Device.destroy_eq_ok hh)), hon, Device.withoutAll_without]
    · obtain ⟨e, armed, he⟩ := Device.destroy_eq_error hh
      refine ⟨[], h, hs, .device task e, armed, rfl, ?_⟩
      rw [on_bind_error (on_callDevice_error he), Device.withoutAll_nil]
      rfl

/-! ## The teardown -/

section Dismantling

variable {order : List (Key × Executor)}

/-- The handles that a workspace destroys, the executors in this order. -/
def handles (w : Workspace) (order : List (Key × Executor)) : List Handle :=
  order.map (·.2.handle) ++ w.graphs.entries.map (·.2.handle)

theorem length_executors_handles (w : Workspace) (order : List (Key × Executor)) :
    ((w.handles order).filter (·.kind = .executor)).length = order.length := by
  simp [handles, List.filter_map, Function.comp_def, Executor.handle, Graph.handle]

theorem length_graphs_handles (w : Workspace) (order : List (Key × Executor)) :
    ((w.handles order).filter (·.kind = .graph)).length = w.graphs.entries.length := by
  simp [handles, List.filter_map, Function.comp_def, Executor.handle, Graph.handle]

/-- No step of the teardown fails: the stream comes to rest, and every handle can be destroyed. -/
def Unhindered (w : Workspace) (order : List (Key × Executor)) : Prop :=
  .synchronize ∉ w.device.armed ∧ ∀ h ∈ w.handles order, w.device.CanDestroy h

instance (w : Workspace) (order : List (Key × Executor)) : Decidable (w.Unhindered order) :=
  inferInstanceAs (Decidable (_ ∧ _))

/-- The device after a teardown that destroyed some handles, if the stream came to rest, and left
    some faults armed. -/
def afterTeardown (d : Device) (rested : Bool) (hs : List Handle) (armed : List FaultPoint) :
    Device :=
  { (if rested then d.record .synchronize else d).withoutAll hs with armed := armed }

theorem afterTeardown_events (d : Device) (rested : Bool) (hs : List Handle)
    (armed : List FaultPoint) : (afterTeardown d rested hs armed).events =
      d.events ++ (if rested then [.synchronize] else []) ++ hs.map .destroying := by
  cases rested <;> simp [afterTeardown, Device.withoutAll, Device.record]

theorem afterTeardown_liveBuffers (d : Device) (rested : Bool) (hs : List Handle)
    (armed : List FaultPoint) : (afterTeardown d rested hs armed).liveBuffers = d.liveBuffers := by
  cases rested <;> rfl

theorem afterTeardown_live (d : Device) (rested : Bool) (hs : List Handle)
    (armed : List FaultPoint) :
    (afterTeardown d rested hs armed).liveExecutors = (d.withoutAll hs).liveExecutors ∧
      (afterTeardown d rested hs armed).liveGraphs = (d.withoutAll hs).liveGraphs := by
  cases rested <;> exact ⟨rfl, rfl⟩

/-- Destroy what was built, once the stream is at rest. -/
def destroyBuilt (order : List (Key × Executor)) : Procedure Unit := do
  note (.destroyingExecutors (← get).executors.size)
  destroyExecutors order
  let w ← get
  note (.destroyingGraphs w.graphs.size)
  destroyGraphs w.graphs.entries

theorem dismantle_eq (order : List (Key × Executor)) :
    dismantle order = (do
      note .tearingDown
      callDevice .synchronize Device.synchronize
      destroyBuilt order) := rfl

/-- If all executors can be destroyed, the graphs are what is left. -/
theorem destroyBuilt_on (hxs : (order.map (·.2.handle)).Nodup)
    (hcan : ∀ h ∈ order.map (·.2.handle), w.device.CanDestroy h) :
    ∃ journal, (destroyBuilt order).on w =
      (destroyAll .destroyGraph (w.graphs.entries.map (·.2.handle))).on
        { w with device := w.device.withoutAll (order.map (·.2.handle)), journal := journal } := by
  rw [destroyBuilt, on_bind_ok (on_get w), on_bind_ok (on_note _ w), destroyExecutors_eq,
    on_bind_ok (destroyAll_eq_ok (w := w.tell _) _ hxs hcan), on_bind_ok (on_get _),
    on_bind_ok (on_note _ _), destroyGraphs_eq]
  exact ⟨_, rfl⟩

theorem destroyBuilt_eq_ok (hdistinct : (w.handles order).Nodup)
    (hcan : ∀ h ∈ w.handles order, w.device.CanDestroy h) :
    ∃ journal, (destroyBuilt order).on w =
      (.ok (), { w with device := w.device.withoutAll (w.handles order), journal := journal }) := by
  obtain ⟨hxs, hgs, hdisjoint⟩ := List.nodup_append.1 hdistinct
  obtain ⟨hcanxs, hcangs⟩ := List.forall_mem_append.1 hcan
  obtain ⟨journal, hon⟩ := destroyBuilt_on hxs hcanxs
  rw [hon, destroyAll_eq_ok _ hgs fun h hh =>
    (Device.canDestroy_withoutAll fun hx => hdisjoint h hx h hh rfl).2 (hcangs h hh)]
  rw [handles, ← Device.withoutAll_append]
  exact ⟨_, rfl⟩

theorem destroyBuilt_eq_error (hdistinct : (w.handles order).Nodup)
    (hcannot : ¬∀ h ∈ w.handles order, w.device.CanDestroy h) :
    ∃ xs gs e armed journal, xs <+: order ∧ gs <+: w.graphs.entries ∧ (gs ≠ [] → xs = order) ∧
      ¬(xs = order ∧ gs = w.graphs.entries) ∧
      (destroyBuilt order).on w = (.error (.fatal e),
        { w with
          device := { w.device.withoutAll (xs.map (·.2.handle) ++ gs.map (·.2.handle)) with
            armed := armed }
          journal := journal }) := by
  obtain ⟨hxs, hgs, hdisjoint⟩ := List.nodup_append.1 hdistinct
  -- Either all executors go and some graph does not, or no graph is ever tried.
  by_cases hcanxs : ∀ h ∈ order.map (·.2.handle), w.device.CanDestroy h
  · obtain ⟨journal, hon⟩ := destroyBuilt_on hxs hcanxs
    obtain ⟨gone, h, rest, e, armed, hsplit, hon'⟩ := destroyAll_eq_error .destroyGraph hgs
      (w := { w with device := w.device.withoutAll (order.map (·.2.handle)), journal := journal })
      fun hall => hcannot (List.forall_mem_append.2 ⟨hcanxs, fun h hh =>
        (Device.canDestroy_withoutAll fun hx => hdisjoint h hx h hh rfl).1 (hall h hh)⟩)
    obtain ⟨gs, hprefix, hne, rfl⟩ := prefix_of_map_eq hsplit
    refine ⟨order, gs, e, armed, journal, List.prefix_rfl, hprefix, fun _ => rfl,
      fun hall => hne hall.2, ?_⟩
    rw [hon, hon', Device.withoutAll_append]
  · let w₁ := w.tell (.destroyingExecutors w.executors.size)
    obtain ⟨gone, h, rest, e, armed, hsplit, hon⟩ :=
      destroyAll_eq_error (w := w₁) .destroyExecutor hxs hcanxs
    obtain ⟨xs, hprefix, hne, rfl⟩ := prefix_of_map_eq hsplit
    refine ⟨xs, [], e, armed, w₁.journal, hprefix, List.nil_prefix, fun h => absurd rfl h,
      fun hall => hne hall.1, ?_⟩
    rw [destroyBuilt, on_bind_ok (on_get w), on_bind_ok (on_note _ w), destroyExecutors_eq,
      on_bind_error hon, List.map_nil, List.append_nil]
    rfl

/-- How far a teardown came: whether the stream came to rest, and the executors and the graphs that
    were destroyed. -/
structure Extent (w : Workspace) (order : List (Key × Executor)) (rested : Bool)
    (xs : List (Key × Executor)) (gs : List (Key × Graph)) : Prop where
  executors : xs <+: order
  graphs : gs <+: w.graphs.entries
  /-- Nothing is destroyed before the stream is at rest. -/
  rest_first : xs ≠ [] ∨ gs ≠ [] → rested
  /-- No graph is destroyed before all executors are. -/
  executors_first : gs ≠ [] → xs = order
  /-- It comes to its end exactly if no step fails. -/
  complete_iff : rested ∧ xs = order ∧ gs = w.graphs.entries ↔ w.Unhindered order

/-- If the stream does not come to rest, a teardown ends before it begins. -/
theorem extent_of_restless (hsync : .synchronize ∈ w.device.armed) :
    Extent w order false [] [] where
  executors := List.nil_prefix
  graphs := List.nil_prefix
  rest_first h := h.elim (absurd rfl ·) (absurd rfl ·)
  executors_first h := absurd rfl h
  complete_iff := iff_of_false (fun hall => Bool.false_ne_true hall.1) fun hall => hall.1 hsync

/-- A teardown destroys what comes before the first handle that cannot be destroyed. -/
theorem dismantle_on (hdistinct : (w.handles order).Nodup) :
    ∃ answer rested xs gs armed journal, Extent w order rested xs gs ∧
      (answer = .ok () ∧ w.Unhindered order ∨
        (∃ e, answer = .error (.fatal e)) ∧ ¬w.Unhindered order) ∧
      (dismantle order).on w = (answer,
        { w with
          device := afterTeardown w.device rested (xs.map (·.2.handle) ++ gs.map (·.2.handle)) armed
          journal := journal }) := by
  rw [dismantle_eq, on_bind_ok (on_note _ w)]
  by_cases hsync : .synchronize ∈ w.device.armed
  · have hrefused : w.device.synchronize =
        (.error (.error (.injected .synchronize)), w.device.disarm .synchronize) := if_pos hsync
    rw [on_bind_error (on_callDevice_error (w := w.tell .tearingDown) hrefused)]
    refine ⟨.error (.fatal (.device .synchronize (.injected .synchronize))), false, [], [],
      (w.device.disarm .synchronize).armed, (w.tell .tearingDown).journal,
      extent_of_restless hsync, .inr ⟨⟨_, rfl⟩, fun hall => hall.1 hsync⟩, ?_⟩
    simp only [List.map_nil, List.append_nil, afterTeardown, Device.withoutAll_nil]
    rfl
  · have hrested : (w.tell .tearingDown).device.synchronize =
        (.ok (), w.device.record .synchronize) := Device.synchronize_eq_ok_iff.2 ⟨hsync, rfl⟩
    rw [on_bind_ok (on_callDevice_ok hrested)]
    -- That the stream is at rest makes no difference to what can be destroyed.
    let w₁ := { w.tell .tearingDown with device := w.device.record .synchronize }
    by_cases hall : ∀ h ∈ w.handles order, w.device.CanDestroy h
    · have hunhindered : w.Unhindered order := ⟨hsync, hall⟩
      obtain ⟨journal, hon⟩ := destroyBuilt_eq_ok (w := w₁) hdistinct hall
      exact ⟨_, true, order, w.graphs.entries, _, journal, ⟨List.prefix_rfl, List.prefix_rfl,
        fun _ => rfl, fun _ => rfl, iff_of_true ⟨rfl, rfl, rfl⟩ hunhindered⟩,
        .inl ⟨rfl, hunhindered⟩, hon⟩
    · have hnot : ¬w.Unhindered order := fun h => hall h.2
      obtain ⟨xs, gs, e, armed, journal, hxs, hgs, hfirst, hincomplete, hon⟩ :=
        destroyBuilt_eq_error (w := w₁) hdistinct hall
      exact ⟨_, true, xs, gs, armed, journal, ⟨hxs, hgs, fun _ => rfl, hfirst,
        iff_of_false (fun hall => hincomplete hall.2) hnot⟩, .inr ⟨⟨e, rfl⟩, hnot⟩, hon⟩

end Dismantling

/-! ## What a workspace has to destroy -/

/-- The graphs are in the order of their keys, and no number occurs twice. -/
structure Filed (w : Workspace) : Prop where
  ordered : w.graphs.Ordered
  graphs : (w.graphs.entries.map (·.2.id)).Nodup
  executors : (w.executors.entries.map (·.2.id)).Nodup

section Filing

variable {key : Key} {m : Model} {mode : CaptureMode} {scratch : Address}

theorem BuildsKey.ordered {r : Except Abort Unit} (hw : w.graphs.Ordered)
    (h : BuildsKey mode scratch key m w r w') : w'.graphs.Ordered := by
  cases h with
  | contextless _ => exact hw
  | unplaced _ hp => exact hp.graphs_eq ▸ hw
  | uncaptured _ hp _ =>
    have hgraphs := hp.graphs_eq ▸ hw
    exact hgraphs
  | uninstantiated _ hp _ _ => exact Table.Ordered.insert (hp.graphs_eq ▸ hw) _ _
  | built _ hp _ _ => exact Table.Ordered.insert (hp.graphs_eq ▸ hw) _ _

theorem BuildsKeys.ordered {entries : List (Key × Model)} {r : Except Abort Unit}
    (h : BuildsKeys mode scratch entries w r w') (hw : w.graphs.Ordered) : w'.graphs.Ordered := by
  induction h with
  | nil => exact hw
  | stop hkey => exact hkey.ordered hw
  | cons hkey _ ih => exact ih (hkey.ordered hw)

theorem Builds.ordered {r : Except Abort Unit} (hw : w.graphs.Ordered) (h : Builds w r w') :
    w'.graphs.Ordered := by
  cases h with
  | again _ => exact hw
  | empty _ _ => exact hw
  | noStack _ _ _ => exact hw
  | noActivations _ _ _ _ => exact hw
  | stopped _ _ _ _ h => exact h.ordered hw
  | finished _ _ _ _ h => exact h.ordered hw

end Filing

/-- What a build keeps was added to its device, where no number occurs twice. -/
theorem Reachable.filed_build (hw : w.Reachable held) (hfiled : w.Filed) : w.build.2.Filed := by
  cases hp : w.phase with
  | built => rwa [build_of_built hp]
  | registering =>
    obtain ⟨stranded, -, h⟩ :=
      (build_builds w).accounted hw.registry hp (hw.bare hp) hw.shared
    -- What the workspace keeps is a part of what is live, and nothing is live twice.
    have hnodup := hw.build.sound.tallied.nodup
    have hgraphs := (List.nodup_append.1 (h.graphs.nodup_iff.1 (hnodup .graph))).1
    have hexecutors := h.executors.nodup_iff.1 (hnodup .executor)
    exact ⟨(build_builds w).ordered hfiled.ordered, (List.nodup_append.1 hgraphs).2.1,
      (List.nodup_append.1 hexecutors).2.1⟩

theorem Reachable.filed (hw : w.Reachable held) : w.Filed := by
  refine hw.induct ?_ ?_ ?_ ?_ ?_
  · exact fun d g _ => ⟨Table.ordered_empty, List.nodup_nil, List.nodup_nil⟩
  · exact fun _ w name m n r _ _ _ hfiled => ⟨hfiled.ordered, hfiled.graphs, hfiled.executors⟩
  · exact fun _ w hw hfiled => hw.filed_build hfiled
  · exact fun w d _ hfiled => ⟨hfiled.ordered, hfiled.graphs, hfiled.executors⟩
  · exact fun w hfiled => ⟨hfiled.ordered, hfiled.graphs, hfiled.executors⟩

/-- No handle is to be destroyed twice, in whatever order. -/
theorem Filed.nodup_handles (hw : w.Filed) {order : List (Key × Executor)}
    (horder : order.Perm w.executors.entries) : (w.handles order).Nodup := by
  have hexecutors : ((order.map (·.2.handle)).map Handle.id).Nodup := by
    rw [List.map_map]
    exact (horder.map (·.2.id)).nodup_iff.2 hw.executors
  have hgraphs : ((w.graphs.entries.map (·.2.handle)).map Handle.id).Nodup := by
    rw [List.map_map]
    exact hw.graphs
  refine List.nodup_append.2 ⟨hexecutors.of_map, hgraphs.of_map, fun h hx h' hg heq => ?_⟩
  obtain ⟨x, -, rfl⟩ := List.mem_map.1 hx
  obtain ⟨g, -, rfl⟩ := List.mem_map.1 hg
  cases heq

/-! ## The drop -/

/-- The two allocations are given back one after the other, and each of them once. -/
theorem releaseMemory_eq (w : Workspace) :
    w.releaseMemory = { w.device with
      liveBuffers := w.device.liveBuffers - w.owned.length
      events := w.device.events ++ w.owned.map (.free ·.address) } := by
  rw [releaseMemory, owned]
  rcases w.stack with _ | s <;> rcases w.activations with _ | a <;>
    simp [Device.free, Device.record, Nat.sub_sub]

variable {order : List (Key × Executor)}

/-- What is left of a workspace, whatever its teardown came to. -/
theorem dropInOrder_remains {answer : Except Abort Unit} {journal : List Log.Note}
    (unwinding : Bool)
    (h : (dismantle order).on w = (answer, { w with device := d, journal := journal })) :
    (w.dropInOrder unwinding order).2.contexts = w.contexts.entries.map (·.2) ∧
      (w.dropInOrder unwinding order).2.device = { d with
        liveBuffers := d.liveBuffers - w.owned.length
        events := d.events ++ w.owned.map (.free ·.address) } := by
  have hreleased := releaseMemory_eq { w with device := d, journal := journal }
  rw [dropInOrder, h]
  rcases answer with ⟨e | x⟩ | ⟨⟩ <;> cases unwinding <;> exact ⟨rfl, hreleased⟩

/-- A teardown that fails is fatal, unless something else is being given up. -/
theorem dropInOrder_answer {answer : Except Abort Unit} {w' : Workspace} (unwinding : Bool)
    (hanswer : answer = .ok () ∨ ∃ e, answer = .error (.fatal e))
    (h : (dismantle order).on w = (answer, w')) :
    (w.dropInOrder unwinding order).1 = if unwinding then .ok () else answer := by
  rw [dropInOrder, h]
  rcases hanswer with rfl | ⟨e, rfl⟩ <;> cases unwinding <;> rfl

/-- What a drop comes to: a teardown that goes so far, and then everything is given back. -/
theorem drop_remains (hdistinct : (w.handles order).Nodup) {unwinding : Bool}
    {answer : Except Abort Unit} {remains : Remains}
    (h : w.dropInOrder unwinding order = (answer, remains)) :
    ∃ rested xs gs armed, Extent w order rested xs gs ∧
      (answer = .ok () ↔ w.Unhindered order ∨ unwinding) ∧
      remains.contexts = w.contexts.entries.map (·.2) ∧
      let d := afterTeardown w.device rested (xs.map (·.2.handle) ++ gs.map (·.2.handle)) armed
      remains.device = { d with
        liveBuffers := d.liveBuffers - w.owned.length
        events := d.events ++ w.owned.map (.free ·.address) } := by
  obtain ⟨answer', rested, xs, gs, armed, journal, hextent, hanswer, hon⟩ := dismantle_on hdistinct
  obtain ⟨hcontexts, hdevice⟩ := dropInOrder_remains unwinding hon
  have hdrop := dropInOrder_answer unwinding (hanswer.imp And.left And.left) hon
  rw [h] at hcontexts hdevice hdrop
  dsimp only at hdrop
  refine ⟨rested, xs, gs, armed, hextent, ?_, hcontexts, hdevice⟩
  rw [hdrop]
  rcases hanswer with ⟨rfl, hall⟩ | ⟨⟨e, rfl⟩, hnot⟩
  · simp [hall]
  · simp [hnot]

/-- Dropping a workspace in any state destroys as much as the device lets it, in order, and gives
    everything else back. The log grows by the stream coming to rest, by executors, by graphs and
    by the allocations, in this order and each of them once. The contexts are released and the
    allocations given back also if a step fails; the drop aborts exactly then, unless something else
    is being given up already. If no step fails, everything that was built is gone. -/
theorem drop_disposes (hw : w.Reachable held) (horder : order.Perm w.executors.entries)
    {unwinding : Bool} {answer : Except Abort Unit} {remains : Remains}
    (h : w.dropInOrder unwinding order = (answer, remains)) :
    ∃ rested xs gs, Extent w order rested xs gs ∧
      remains.device.events = w.device.events ++ (if rested then [.synchronize] else []) ++
        xs.map (.destroyExecutor ·.2.id) ++ gs.map (.destroyGraph ·.2.id) ++
        w.owned.map (.free ·.address) ∧
      ((xs.map (·.2.id)).Nodup ∧ (gs.map (·.2.id)).Nodup ∧ (gs.map (·.1)).Pairwise (· < ·)) ∧
      (∀ b ∈ w.owned, (Event.freedIn remains.device.events).count b.address = 1) ∧
      remains.device.liveBuffers + w.owned.length = w.device.liveBuffers ∧
      remains.contexts = w.contexts.entries.map (·.2) ∧
      (w.Unhindered order →
        remains.device.liveExecutors.length + w.executors.size = w.device.liveExecutors.length ∧
          remains.device.liveGraphs.length + w.graphs.size = w.device.liveGraphs.length) ∧
      (answer = .ok () ↔ w.Unhindered order ∨ unwinding) := by
  have hfiled := hw.filed
  obtain ⟨hcount, haddresses, -, -, hkept⟩ := hw.sound.covers
  have hdistinct := hfiled.nodup_handles horder
  obtain ⟨rested, xs, gs, armed, hextent, hanswer, hcontexts, hdevice⟩ := drop_remains hdistinct h
  dsimp only at hdevice
  have hevents : remains.device.events = w.device.events ++
      (if rested then [.synchronize] else []) ++ xs.map (.destroyExecutor ·.2.id) ++
      gs.map (.destroyGraph ·.2.id) ++ w.owned.map (.free ·.address) := by
    rw [hdevice, afterTeardown_events, List.map_append, List.map_map, List.map_map,
      List.append_assoc _ (xs.map _)]
    rfl
  refine ⟨rested, xs, gs, hextent, hevents, ⟨?xs, ?gs, ?keys⟩, fun b hb => ?freed, ?buffers,
    hcontexts, fun hunhindered => ?counts, hanswer⟩
  case xs =>
    have hids := (horder.map (·.2.id)).nodup_iff.2 hfiled.executors
    exact hids.sublist (hextent.executors.sublist.map _)
  case gs => exact hfiled.graphs.sublist (hextent.graphs.sublist.map _)
  case keys => exact hfiled.ordered.sublist (hextent.graphs.sublist.map _)
  case freed =>
    have hfreed : Event.freedIn remains.device.events =
        Event.freedIn w.device.events ++ w.owned.map Buffer.address := by
      rw [hdevice, afterTeardown_events, Event.freedIn_append, Event.freedIn_append,
        Event.freedIn_append, Event.freedIn_destroying, Event.freedIn_free, List.append_nil]
      cases rested <;> simp [Event.freedIn, Event.freed?]
    have hbefore : b.address ∉ Event.freedIn w.device.events :=
      hkept b (List.mem_append_right _ hb)
    rw [List.map_append, List.nodup_append] at haddresses
    rw [hfreed, List.count_append, List.count_eq_zero_of_not_mem hbefore,
      List.count_eq_one_of_mem haddresses.2.1 (List.mem_map_of_mem hb)]
  case buffers =>
    have hle : w.owned.length ≤ w.device.liveBuffers := by
      have hlength : w.device.liveBuffers = (held ++ w.owned).length := hcount
      rw [hlength, List.length_append]
      exact Nat.le_add_left _ _
    rw [hdevice, afterTeardown_liveBuffers]
    exact Nat.sub_add_cancel hle
  case counts =>
    obtain ⟨-, rfl, rfl⟩ := hextent.complete_iff.2 hunhindered
    have hlength := Device.length_live_withoutAll hw.sound.tallied.nodup hdistinct
      fun h hh => (hunhindered.2 h hh).2
    have hexecutors := hlength .executor
    have hgraphs := hlength .graph
    rw [hdevice, (afterTeardown_live _ _ _ _).1, (afterTeardown_live _ _ _ _).2]
    rw [length_executors_handles, horder.length_eq] at hexecutors
    rw [length_graphs_handles] at hgraphs
    exact ⟨hexecutors, hgraphs⟩

/-- The sample workspace after its build, and after somebody destroyed one of its executors. -/
def bereft : Workspace :=
  { sample.build.2 with device := (sample.build.2.device.destroyExecutor ⟨4, []⟩).2 }

theorem bereft_reachable : bereft.Reachable [] :=
  sample_reachable.build.device (.call _ _ (.destroyExecutor ⟨4, []⟩))

/-- Destroyed in the reverse order, the second executor is the one that is gone, so the teardown
    ends there. Both allocations are given back all the same. -/
theorem bereft_drop_disposes :
    bereft.executors.entries.reverse.Perm bereft.executors.entries ∧
      (bereft.dropInOrder false bereft.executors.entries.reverse).2.device.events =
        bereft.device.events ++
          [.synchronize, .destroyExecutor 6, .free ⟨1000⟩, .free ⟨132328⟩] ∧
      bereft.owned = [⟨⟨1000⟩, 131072⟩, ⟨⟨132328⟩, 131072⟩] ∧
      (bereft.dropInOrder false bereft.executors.entries.reverse).2.device.liveBuffers + 2 =
        bereft.device.liveBuffers ∧
      ¬bereft.Unhindered bereft.executors.entries.reverse ∧
      (bereft.dropInOrder false bereft.executors.entries.reverse).1 ≠ .ok () := by
  have horder := List.reverse_perm bereft.executors.entries
  have hdrop := (Prod.mk.eta (p := bereft.dropInOrder false bereft.executors.entries.reverse)).symm
  obtain ⟨_, _, _, -, -, -, -, hbuffers, -, -, hanswer⟩ :=
    drop_disposes bereft_reachable horder hdrop
  have howned : bereft.owned = [⟨⟨1000⟩, 131072⟩, ⟨⟨132328⟩, 131072⟩] := by decide +kernel
  have hanswer' : (bereft.dropInOrder false bereft.executors.entries.reverse).1 ≠ .ok () := by
    decide +kernel
  have hlength : bereft.owned.length = 2 := congrArg List.length howned
  rw [hlength] at hbuffers
  exact ⟨horder, by decide +kernel, howned, hbuffers,
    fun hall => hanswer' (hanswer.2 (.inl hall)), hanswer'⟩

end Workspace

end GraphReplay
