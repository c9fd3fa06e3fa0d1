import GraphReplay.Proofs.Disposal

/-!
# How long memory lives

A recorded operation carries addresses, so memory has to outlive every graph and
every executor that was captured on it. As long as a workspace lives, it does: the
workspace gives nothing back. When it is taken down, memory is given back whether
or not what was captured on it could be destroyed before. So it dangles exactly if
something captured survives the teardown, which takes a step that fails.

* `Bakes`: a graph or an executor of the workspace works on an allocation;
* `NeverDangles`: nowhere in a log is an allocation given back too early;
* `memory_outlives_captures`: when that is so of the log of a drop.
-/

namespace GraphReplay

/-- Some of these operations works on an address inside the allocation. -/
def BakedIn (ops : List Op) (b : Buffer) : Prop :=
  ∃ op ∈ ops, ∃ p ∈ op.args, b.range.start ≤ p.toNat ∧ p.toNat < b.range.stop

/-! ## Logs -/

namespace Handle

variable {h : Handle} {log : List Event}

/-- Giving memory back does not concern handles. -/
theorem liveIn_append_free (bs : List Buffer) :
    h.LiveIn (log ++ bs.map (.free ·.address)) ↔ h.LiveIn log := by
  simp [LiveIn, Event.madeIn, Event.destroyedIn, Event.made?, Event.destroyed?, Function.comp_def]

theorem not_liveIn_of_mem (hmem : .destroying h ∈ log) : ¬h.LiveIn log := fun hlive =>
  hlive.2 (List.mem_filterMap.2 ⟨_, hmem, Event.destroyed?_destroying h⟩)

end Handle

/-- What comes before a free that is not in the first part of a log. -/
theorem exists_of_append_free_eq {log before after : List Event} {bs : List Buffer} {p : Address}
    (hlog : .free p ∉ log) (h : log ++ bs.map (.free ·.address) = before ++ .free p :: after) :
    ∃ bs' : List Buffer, before = log ++ bs'.map (.free ·.address) := by
  rcases List.append_eq_append_iff.1 h with ⟨l, rfl, hl⟩ | ⟨l, rfl, hl⟩
  · obtain ⟨bs', rest, -, rfl, -⟩ := List.map_eq_append_iff.1 hl
    exact ⟨bs', rfl⟩
  · cases l with
    | nil => exact ⟨[], by simp⟩
    | cons e l =>
      cases hl
      exact absurd (List.mem_append_right _ List.mem_cons_self) hlog

/-! ## Workspaces -/

namespace Workspace

variable {w : Workspace} {held : List Buffer} {order : List (Key × Executor)} {h : Handle}
variable {b : Buffer} {log : List Event}

/-- A graph or an executor that was captured for the workspace works on the allocation. -/
def Bakes (w : Workspace) (h : Handle) (b : Buffer) : Prop :=
  (∃ g, g ∈ w.graphs.entries ∧ h = g.2.handle ∧ BakedIn g.2.ops b) ∨
    ∃ x, x ∈ w.executors.entries ∧ h = x.2.handle ∧ BakedIn x.2.ops b

/-- Nowhere in the log is an allocation of the workspace given back while something that was
    captured for the workspace, and works on the allocation, is live. -/
def NeverDangles (w : Workspace) (log : List Event) : Prop :=
  ∀ b ∈ w.owned, ∀ before after, log = before ++ .free b.address :: after →
    ∀ h, w.Bakes h b → ¬h.LiveIn before

/-- What was captured is what a teardown is to destroy. -/
theorem Bakes.mem_handles (hb : w.Bakes h b) (horder : order.Perm w.executors.entries) :
    h ∈ w.handles order := by
  rcases hb with ⟨g, hg, rfl, -⟩ | ⟨x, hx, rfl, -⟩
  · exact List.mem_append_right _ (List.mem_map.2 ⟨g, hg, rfl⟩)
  · exact List.mem_append_left _ (List.mem_map.2 ⟨x, horder.mem_iff.2 hx, rfl⟩)

/-- Once its memory is given back, nothing that works on it may be live. -/
theorem neverDangles_append_free_iff (hlog : ∀ b ∈ w.owned, .free b.address ∉ log) :
    w.NeverDangles (log ++ w.owned.map (.free ·.address)) ↔
      ∀ b ∈ w.owned, ∀ h, w.Bakes h b → ¬h.LiveIn log := by
  constructor
  · intro hsafe b hb h hbakes hlive
    obtain ⟨front, rest, hsplit⟩ := List.append_of_mem hb
    refine hsafe b hb (log ++ front.map (.free ·.address)) (rest.map (.free ·.address)) ?_ h hbakes
      ((Handle.liveIn_append_free front).2 hlive)
    rw [hsplit, List.map_append, List.map_cons, List.append_assoc]
  · intro hgone b hb before after heq h hbakes hlive
    obtain ⟨bs, rfl⟩ := exists_of_append_free_eq (hlog b hb) heq
    exact hgone b hb h hbakes ((Handle.liveIn_append_free bs).1 hlive)

/-- The memory of a workspace is not given back as long as the workspace lives. -/
theorem Reachable.free_notMem (hw : w.Reachable held) (hb : b ∈ w.owned) :
    .free b.address ∉ w.device.events := fun hmem =>
  hw.sound.covers.kept b (List.mem_append_right _ hb) (List.mem_filterMap.2 ⟨_, hmem, rfl⟩)

/-- As long as a workspace lives, its memory does. When it is dropped, its memory is given back
    too early exactly if something that works on it survives the teardown, and nothing does if no
    step of the teardown fails. -/
theorem memory_outlives_captures (hw : w.Reachable held) (horder : order.Perm w.executors.entries)
    {unwinding : Bool} {answer : Except Abort Unit} {remains : Remains}
    (h : w.dropInOrder unwinding order = (answer, remains)) :
    w.NeverDangles w.device.events ∧
      (w.NeverDangles remains.device.events ↔
        ∀ b ∈ w.owned, ∀ h, w.Bakes h b → ¬h.LiveIn remains.device.events) ∧
      (w.Unhindered order → w.NeverDangles remains.device.events) := by
  obtain ⟨rested, xs, gs, armed, hextent, -, -, hdevice⟩ :=
    drop_remains (hw.filed.nodup_handles horder) h
  have hevents := congrArg Device.events hdevice
  dsimp only at hevents
  rw [afterTeardown_events] at hevents
  generalize hlog : w.device.events ++ (if rested then [.synchronize] else []) ++
    (xs.map (·.2.handle) ++ gs.map (·.2.handle)).map Event.destroying = log at hevents
  -- A teardown frees nothing, so the allocations are given back where the log says so at its end.
  have hkept : ∀ b ∈ w.owned, .free b.address ∉ log := by
    intro b hb hmem
    rw [← hlog, List.mem_append, List.mem_append] at hmem
    rcases hmem with (hmem | hmem) | hmem
    · exact hw.free_notMem hb hmem
    · cases rested <;> simp at hmem
    · obtain ⟨⟨_ | _, _⟩, -, heq⟩ := List.mem_map.1 hmem <;> cases heq
  refine ⟨fun b hb before after heq => ?alive, ?iff, fun hunhindered => ?unhindered⟩
  case alive =>
    refine absurd ?_ (hw.free_notMem hb)
    rw [heq]
    exact List.mem_append_right _ List.mem_cons_self
  case iff =>
    rw [hevents, neverDangles_append_free_iff hkept]
    simp only [Handle.liveIn_append_free]
  case unhindered =>
    rw [hevents, neverDangles_append_free_iff hkept]
    intro b _ h hbakes
    obtain ⟨-, rfl, rfl⟩ := hextent.complete_iff.2 hunhindered
    refine Handle.not_liveIn_of_mem ?_
    rw [← hlog]
    exact List.mem_append_right _ (List.mem_map_of_mem (hbakes.mem_handles horder))

/-- No fault is armed on this device, and nobody else has touched what was built. -/
theorem sample_memory_outlives_captures :
    sample.build.2.Unhindered sample.build.2.executors.entries ∧
      sample.build.2.NeverDangles
        (sample.build.2.dropInOrder false sample.build.2.executors.entries).2.device.events := by
  have hunhindered : sample.build.2.Unhindered sample.build.2.executors.entries := by decide +kernel
  have hdrop :=
    (Prod.mk.eta (p := sample.build.2.dropInOrder false sample.build.2.executors.entries)).symm
  obtain ⟨-, -, hsafe⟩ := memory_outlives_captures sample_reachable.build (List.Perm.refl _) hdrop
  exact ⟨hunhindered, hsafe hunhindered⟩

/-- The sample workspace after its build, on a device that will not come to rest. -/
def restless : Workspace :=
  { sample.build.2 with device := sample.build.2.device.arm .synchronize }

/-- Its memory is given back while all that was captured on it is live. The first graph, for one,
    works on the stack, which begins at 1000. -/
theorem restless_drop_dangles :
    restless.Reachable [] ∧
      ¬restless.NeverDangles
        (restless.dropInOrder false restless.executors.entries).2.device.events := by
  refine ⟨sample_reachable.build.device (.call _ _ (.arm .synchronize)), fun hsafe => ?_⟩
  have hstack : ⟨⟨1000⟩, 131072⟩ ∈ restless.owned := by decide +kernel
  have hlog : (restless.dropInOrder false restless.executors.entries).2.device.events =
      restless.device.events ++ .free ⟨1000⟩ :: [.free ⟨132328⟩] := by decide +kernel
  have hgraph : (⟨"a", 1⟩, ⟨1, [⟨"a::forward", 1, [⟨1024⟩, ⟨1536⟩, ⟨132328⟩]⟩]⟩) ∈
      restless.graphs.entries := by decide +kernel
  have hbakes : restless.Bakes ⟨.graph, 1⟩ ⟨⟨1000⟩, 131072⟩ :=
    .inl ⟨_, hgraph, rfl, _, List.mem_cons_self, ⟨1024⟩, List.mem_cons_self, by decide⟩
  have hlive : Handle.LiveIn ⟨.graph, 1⟩ restless.device.events := by decide +kernel
  exact hsafe _ hstack _ _ hlog _ hbakes hlive

end Workspace

end GraphReplay
