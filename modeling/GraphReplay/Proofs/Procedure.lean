import GraphReplay.Workspace.Basic

/-!
# Running procedures

How the parts of a procedure run on a workspace: a chain runs its parts in turn
and ends with the first abort (`on_bind`), and what a part did stays done.
-/

namespace GraphReplay.Workspace.Procedure

variable {α β : Type} {w : Workspace}

theorem on_pure (a : α) (w : Workspace) : (pure a : Procedure α).on w = (.ok a, w) := rfl

theorem on_get (w : Workspace) : (get : Procedure Workspace).on w = (.ok w, w) := rfl

theorem on_modify (f : Workspace → Workspace) (w : Workspace) :
    (modify f : Procedure Unit).on w = (.ok (), f w) := rfl

theorem on_liftExcept (x : Except Abort α) (w : Workspace) :
    (liftExcept x : Procedure α).on w = (x, w) := by
  cases x <;> rfl

theorem on_note (n : Log.Note) (w : Workspace) : (note n).on w = (.ok (), w.tell n) := rfl

/-- A chain runs its parts in turn and ends with the first abort. -/
theorem on_bind (x : Procedure α) (f : α → Procedure β) (w : Workspace) :
    (x >>= f).on w =
      match x.on w with
      | (.ok a, w') => (f a).on w'
      | (.error e, w') => (.error e, w') := by
  simp only [on, ExceptT.run_bind, StateT.run_bind]
  rcases h : StateT.run (ExceptT.run x) w with ⟨_ | a, w'⟩ <;> rfl

theorem on_bind_ok {x : Procedure α} {f : α → Procedure β} {a : α} {w' : Workspace}
    (h : x.on w = (.ok a, w')) : (x >>= f).on w = (f a).on w' := by
  rw [on_bind, h]

theorem on_bind_error {x : Procedure α} {f : α → Procedure β} {e : Abort} {w' : Workspace}
    (h : x.on w = (.error e, w')) : (x >>= f).on w = (.error e, w') := by
  rw [on_bind, h]

/-- A device call changes the device only. -/
theorem on_callDevice (task : DeviceTask) (call : Device → Device.Answer α) (w : Workspace) :
    (callDevice task call).on w =
      ((call w.device).1.mapError (.ofFailure (.device task)), { w with device := (call w.device).2 }) := by
  rw [callDevice, on_bind_ok (on_get w)]
  rw [on_bind_ok (on_modify _ w), on_liftExcept]

theorem on_callDevice_ok {task : DeviceTask} {call : Device → Device.Answer α} {a : α} {d : Device}
    (h : call w.device = (.ok a, d)) :
    (callDevice task call).on w = (.ok a, { w with device := d }) := by
  rw [on_callDevice, h]
  rfl

theorem on_callDevice_error {task : DeviceTask} {call : Device → Device.Answer α}
    {f : Failure DeviceError} {d : Device} (h : call w.device = (.error f, d)) :
    (callDevice task call).on w = (.error (.ofFailure (.device task) f), { w with device := d }) := by
  rw [on_callDevice, h]
  rfl

end GraphReplay.Workspace.Procedure
