import GraphReplay.Proofs.Placement

/-!
# What a workspace owns

A workspace is one more user of its device. It asks for nothing that others could
not ask for, so its device comes about as every device does, the allocations of
the workspace counted among those that are held.

* `owned`: the allocations of a workspace, in the order in which it frees them;
* `Device.Shared`: a reachable device, whoever holds what;
* `Reachable.shared`: the device of a reachable workspace is one, so its books are
  sound (`Reachable.sound`).
-/

namespace GraphReplay

namespace Books

variable {held held' : List Buffer} {b : Books}

/-- It does not matter who holds what. -/
theorem Covers.perm (hb : b.Covers held) (h : held.Perm held') : b.Covers held' where
  count := hb.count.trans h.length_eq
  distinct := (h.map Buffer.address).nodup_iff.1 hb.distinct
  below q hq := hb.below q (h.mem_iff.2 hq)
  freed_below := hb.freed_below
  kept q hq := hb.kept q (h.mem_iff.2 hq)

theorem Sound.perm (hb : b.Sound held) (h : held.Perm held') : b.Sound held' :=
  ⟨hb.tallied, hb.covers.perm h⟩

end Books

namespace Device

variable {held held' : List Buffer} {d d' : Device}

/-- What some do to a device does not concern the allocations of others. -/
theorem Step.frame (h : Step held d held' d') (own : List Buffer) :
    Step (held ++ own) d (held' ++ own) d' := by
  cases h with
  | call c => exact .call _ d c
  | allocate h => exact .allocate h
  | refuse h => exact .refuse h
  | free hq =>
    rw [← List.erase_append_left _ hq]
    exact .free (List.mem_append_left _ hq)

/-- Nor does it matter in which order allocations are counted. -/
theorem Step.perm {other : List Buffer} (h : Step held d held' d') (hperm : other.Perm held) :
    ∃ other', other'.Perm held' ∧ Step other d other' d' := by
  cases h with
  | call c => exact ⟨other, hperm, .call other d c⟩
  | allocate h => exact ⟨_, hperm.cons _, .allocate h⟩
  | refuse h => exact ⟨other, hperm, .refuse h⟩
  | free hq => exact ⟨_, hperm.erase _, .free (hperm.mem_iff.2 hq)⟩

/-- A device that comes about by any steps, with what is held of its memory, by whomever. -/
def Shared (held : List Buffer) (d : Device) : Prop :=
  ∃ all, all.Perm held ∧ d.Reachable all

theorem Shared.step (hd : d.Shared held) (h : Step held d held' d') : d'.Shared held' := by
  obtain ⟨all, hperm, hd⟩ := hd
  obtain ⟨all', hperm', h'⟩ := h.perm hperm
  exact ⟨all', hperm', hd.step h'⟩

theorem Shared.perm (hd : d.Shared held) (h : held.Perm held') : d.Shared held' := by
  obtain ⟨all, hperm, hd⟩ := hd
  exact ⟨all, hperm.trans h, hd⟩

theorem Shared.called (hd : d.Shared held) (h : d.Called d') : d'.Shared held := by
  obtain ⟨all, hperm, hd⟩ := hd
  exact ⟨all, hperm, h.reachable hd⟩

theorem Shared.sound (hd : d.Shared held) : d.books.Sound held := by
  obtain ⟨all, hperm, hd⟩ := hd
  exact hd.sound.perm hperm

end Device

/-! ## Allocations of a workspace -/

theorem BindingStack.allocate_of_create {d d' : Device} {capacity : Nat} {s : BindingStack}
    (h : create d capacity = (.ok s, d')) : d.allocate capacity = (.ok s.backing, d') := by
  rw [create, Prod.mk.injEq, Failure.map_eq_ok_iff] at h
  obtain ⟨⟨b, hb, rfl⟩, hd⟩ := h
  exact Prod.ext hb hd

theorem BindingStack.allocate_of_create_error {d d' : Device} {capacity : Nat}
    {f : Failure DeviceError} (h : create d capacity = (.error f, d')) :
    d.allocate capacity = (.error f, d') := by
  rw [create, Prod.mk.injEq, Failure.map_eq_error_iff] at h
  exact Prod.ext h.1 h.2

theorem ActivationSpace.allocate_of_create_error {d d' : Device} {bytes : Nat}
    {f : Failure DeviceError} (h : create d bytes = (.error f, d')) :
    d.allocate bytes = (.error f, d') := by
  rw [create, Prod.mk.injEq, Failure.map_eq_error_iff] at h
  exact Prod.ext h.1 h.2

namespace Workspace

variable {w w' : Workspace} {s : BindingStack} {a : ActivationSpace} {key : Key} {m : Model}
variable {mode : CaptureMode} {scratch : Address} {held : List Buffer}

/-- The allocations of a workspace, in the order in which it gives them back. -/
def owned (w : Workspace) : List Buffer :=
  w.stack.toList.map (·.backing) ++ w.activations.toList.map (·.backing)

/-- What is on the stack is no matter of ownership. -/
theorem owned_congr (hstack : w'.emptied = w.emptied) (hact : w'.activations = w.activations) :
    w'.owned = w.owned := by
  have hbacking (w : Workspace) :
      w.stack.toList.map (·.backing) = w.emptied.toList.map (·.backing) := by
    rw [emptied]
    cases w.stack <;> rfl
  rw [owned, owned, hbacking, hbacking, hstack, hact]

/-! ## Keys -/

/-- A key is built with the allocations that are there. -/
theorem BuildsKey.owned_eq {r : Except Abort Unit} (hw : w.Underway s a)
    (h : BuildsKey mode scratch key m w r w') : w'.owned = w.owned := by
  have hplaces {c : Context} {answer : Except Abort (List Address)} {w₁ : Workspace}
      (hc : w.contexts.find? key.name = some c)
      (hp : Places key.name m (w.prepared key c scratch) answer w₁) : w₁.owned = w.owned :=
    owned_congr ((hp.emptied_eq (hw.prepared hc)).trans rfl) hp.activations_eq
  have hkeeping (w : Workspace) (g : Graph) (d : Device) : (w.keeping key g d).owned = w.owned := by
    refine owned_congr ?_ rfl
    rw [emptied, Workspace.keeping, Option.map_map]
    rfl
  cases h with
  | contextless _ => rfl
  | unplaced hc hp => exact hplaces hc hp
  | uncaptured hc hp _ =>
    have howned := hplaces hc hp
    exact howned
  | uninstantiated hc hp _ _ => exact (hkeeping _ _ _).trans (hplaces hc hp)
  | @built c ps w₁ g d d' e hc hp _ _ => exact (hkeeping w₁ g d').trans (hplaces hc hp)

/-- So are all keys. -/
theorem BuildsKeys.owned_eq {r : Except Abort Unit} (hw : w.Underway s a)
    (h : BuildsKeys mode scratch w.modelsByKey.entries w r w') : w'.owned = w.owned := by
  rcases h.outcome (I := fun w₁ => w₁.owned = w.owned)
      (fun _ _ _ _ hw₁ _ howned hkey => (hkey.owned_eq hw₁).trans howned)
      hw rfl (fun _ _ => hw.registry.mem_models) with
    ⟨-, -, howned⟩ | ⟨e, key, m, w₁, -, -, hw₁, howned, -, hkey⟩
  · exact howned
  · exact (hkey.owned_eq hw₁).trans howned

/-! ## Builds -/

theorem owned_of_bare (hw : w.Bare) : w.owned = [] := by
  rw [owned, hw.stack, hw.activations]
  rfl

/-- The two allocations of a build are its own. -/
theorem shared_furnished {d d' : Device} (hd : w.device.Shared held)
    (hs : BindingStack.create w.device w.plan.stack = (.ok s, d))
    (ha : ActivationSpace.create d w.plan.activations = (.ok a, d')) :
    d'.Shared (held ++ [s.backing, a.backing]) := by
  have hstack := hd.step (.allocate (BindingStack.allocate_of_create hs))
  have hboth := hstack.step (.allocate (ActivationSpace.create_eq_ok_iff.1 ha))
  refine hboth.perm ?_
  have hcomm : ([s.backing, a.backing] ++ held).Perm (held ++ [s.backing, a.backing]) :=
    List.perm_append_comm
  exact (List.Perm.swap _ _ _).trans hcomm

theorem Builds.shared {r : Except Abort Unit} (hreg : w.Registry)
    (hbare : w.phase = .registering → w.Bare) (hd : w.device.Shared (held ++ w.owned))
    (h : Builds w r w') : w'.device.Shared (held ++ w'.owned) := by
  -- Before its build a workspace owns nothing: all that is held is held by others.
  have hunowned (hp : w.phase = .registering) : w.device.Shared held := by
    rwa [owned_of_bare (hbare hp), List.append_nil] at hd
  have hkeys {s : BindingStack} {a : ActivationSpace} {d d' : Device} {answer : Except Abort Unit}
      {w' : Workspace} (hp : w.phase = .registering)
      (hs : BindingStack.create w.device w.plan.stack = (.ok s, d))
      (ha : ActivationSpace.create d w.plan.activations = (.ok a, d'))
      (hkeys : BuildsKeys d'.captureMode a.base w.modelsByKey.entries
        (w.furnished s a d d') answer w') : w'.device.Shared (held ++ w'.owned) := by
    rw [hkeys.owned_eq (underway_furnished hreg (hbare hp) hs ha)]
    exact (shared_furnished (hunowned hp) hs ha).called hkeys.called
  cases h with
  | again _ => exact hd
  | empty _ _ => exact hd
  | noStack _ _ hs => exact hd.step (.refuse (BindingStack.allocate_of_create_error hs))
  | @noActivations s f d d' hp _ hs ha =>
    have hstack := (hunowned hp).step (.allocate (BindingStack.allocate_of_create hs))
    have hrefused := hstack.step (.refuse (ActivationSpace.allocate_of_create_error ha))
    have howned :
        ({ w.closed.withStack s d with device := d' } : Workspace).owned = [s.backing] := by
      rw [owned]
      simp [withStack, closed, tell, (hbare hp).activations]
    rw [howned]
    have hcomm : ([s.backing] ++ held).Perm (held ++ [s.backing]) := List.perm_append_comm
    exact hrefused.perm hcomm
  | stopped hp _ hs ha h => exact hkeys hp hs ha h
  | finished hp _ hs ha h =>
    have hshared := hkeys hp hs ha h
    exact hshared

/-- The device of a reachable workspace is one that others could have brought about, with the
    allocations of the workspace among those that are held. -/
theorem Reachable.shared (hw : w.Reachable held) : w.device.Shared (held ++ w.owned) := by
  induction hw with
  | @create held d g w hd h =>
    obtain ⟨_, _, h⟩ := Failure.bind_eq_ok_iff.1 h
    cases h
    exact ⟨held, by rw [owned_of_bare (bare_ofDevice d g), List.append_nil], hd⟩
  | @register held w l name m batchSize _ ih =>
    rcases register_cases w l name m batchSize with h | ⟨r, _, _, h⟩
    · rwa [h]
    · rw [h]
      exact ih
  | build hw ih => exact (build_builds _).shared hw.registry hw.bare ih
  | launch e _ ih => exact ih.step (.call _ _ (.launch e))
  | synchronize _ ih =>
    rw [Workspace.synchronize, Procedure.on_callDevice]
    exact ih.step (.call _ _ .synchronize)
  | device _ h ih => exact ih.step (h.frame _)
  | collect _ ih => exact ih

/-- So the books of its device are sound. -/
theorem Reachable.sound (hw : w.Reachable held) : w.device.books.Sound (held ++ w.owned) :=
  hw.shared.sound

end Workspace

end GraphReplay
