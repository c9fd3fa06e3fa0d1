import GraphReplay.Proofs.Procedure
import GraphReplay.Workspace.Build

/-!
# The journal is only written

A workspace tells in its journal what happens, and never looks into it. So
workspaces that differ in nothing but their journal do the same.

* `silent`: a workspace apart from its journal;
* `Procedure.Deaf`: a procedure that does the same whatever was told before, which
  chains of such procedures do (`Deaf.bind`, `deaf_get_bind`);
* `deaf_buildAll`: the build is one, so it comes to the same whatever was told before
  (`build_congr`).
-/

namespace GraphReplay.Workspace

open Procedure

variable {α β : Type} {w w' : Workspace}

/-- The workspace apart from its journal. -/
def silent (w : Workspace) : Workspace := { w with journal := [] }

/-- Two workspaces that differ in nothing but their journal. -/
theorem exists_journal (h : w.silent = w'.silent) : ∃ j, w' = { w with journal := j } := by
  refine ⟨w'.journal, ?_⟩
  have hw : { w.silent with journal := w'.journal } = { w'.silent with journal := w'.journal } := by
    rw [h]
  exact hw.symm

namespace Procedure

/-- The procedure does the same whatever was told before. -/
def Deaf (x : Procedure α) : Prop :=
  ∀ w, (x.on w).1 = (x.on w.silent).1 ∧ (x.on w).2.silent = (x.on w.silent).2.silent

theorem Deaf.congr {x : Procedure α} (hx : x.Deaf) (h : w.silent = w'.silent) :
    (x.on w).1 = (x.on w').1 ∧ (x.on w).2.silent = (x.on w').2.silent := by
  obtain ⟨hanswer, hleft⟩ := hx w
  obtain ⟨hanswer', hleft'⟩ := hx w'
  rw [hanswer, hanswer', hleft, hleft', h]
  exact ⟨rfl, rfl⟩

/-! ## Parts -/

theorem deaf_pure (a : α) : (pure a : Procedure α).Deaf := fun _ => ⟨rfl, rfl⟩

theorem deaf_throw (e : Abort) : (throw e : Procedure α).Deaf := fun _ => ⟨rfl, rfl⟩

theorem deaf_fail (e : FatalError) : (fail e : Procedure α).Deaf := deaf_throw _

theorem deaf_note (n : Log.Note) : (note n).Deaf := fun _ => ⟨rfl, rfl⟩

theorem deaf_liftExcept (x : Except Abort α) : (liftExcept x : Procedure α).Deaf := by
  intro w
  rw [on_liftExcept, on_liftExcept]
  exact ⟨rfl, rfl⟩

theorem deaf_modify {f : Workspace → Workspace} (hf : ∀ w, (f w).silent = (f w.silent).silent) :
    (modify f : Procedure Unit).Deaf :=
  fun w => ⟨rfl, hf w⟩

theorem deaf_callDevice (task : DeviceTask) (call : Device → Device.Answer α) :
    (callDevice task call).Deaf := by
  intro w
  rw [on_callDevice, on_callDevice]
  exact ⟨rfl, rfl⟩

/-! ## Chains -/

theorem Deaf.bind {x : Procedure α} {f : α → Procedure β} (hx : x.Deaf) (hf : ∀ a, (f a).Deaf) :
    (x >>= f).Deaf := by
  intro w
  obtain ⟨hanswer, hleft⟩ := hx w
  rw [on_bind, on_bind]
  rcases h : x.on w with ⟨r, v⟩
  rcases h' : x.on w.silent with ⟨r', v'⟩
  rw [h, h'] at hanswer hleft
  obtain rfl : r = r' := hanswer
  cases r with
  | error e => exact ⟨rfl, hleft⟩
  | ok a => exact (hf a).congr hleft

/-- What is read of the workspace must not be its journal. -/
theorem deaf_get_bind {f : Workspace → Procedure β} (hread : ∀ w, f w = f w.silent)
    (hf : ∀ w, (f w).Deaf) : (get >>= f).Deaf := by
  intro w
  rw [on_bind_ok (on_get w), on_bind_ok (on_get w.silent), ← hread w]
  exact hf w w

end Procedure

/-! ## The build -/

theorem deaf_entryOf {κ : Type} [DecidableEq κ] {table : Workspace → Table κ α}
    (htable : ∀ w, table w = table w.silent) (expectation : String) (k : κ) :
    (entryOf table expectation k).Deaf := by
  refine deaf_get_bind (fun w => by rw [← htable w]) fun w => ?_
  cases (table w).find? k with
  | some a => exact deaf_pure a
  | none => exact deaf_throw _

theorem deaf_prepareContext (name : String) (scratch : Address) :
    (prepareContext name scratch).Deaf := by
  refine (deaf_entryOf (fun _ => rfl) _ _).bind fun c => ?_
  exact (deaf_modify fun _ => rfl).bind fun _ => deaf_pure _

theorem deaf_layBindings (name : String) (m : Model) : (layBindings name m).Deaf := by
  refine deaf_get_bind (fun _ => rfl) fun w => ?_
  cases w.bindings.find? name with
  | some ps => exact deaf_pure ()
  | none =>
    cases w.stack with
    | none => exact deaf_throw _
    | some s =>
      refine (deaf_modify fun _ => rfl).bind fun _ => ?_
      exact (deaf_liftExcept _).bind fun _ => deaf_modify fun _ => rfl

theorem deaf_placeBindings (name : String) (m : Model) : (placeBindings name m).Deaf :=
  (deaf_layBindings name m).bind fun _ => deaf_entryOf (fun _ => rfl) _ _

theorem deaf_abandonCapture : abandonCapture.Deaf := by
  refine deaf_get_bind (fun _ => rfl) fun w => ?_
  rcases w.device.endCapture with ⟨(_ | d) | g, d'⟩
  · exact deaf_modify fun _ => rfl
  · exact (deaf_modify fun _ => rfl).bind fun _ => deaf_throw _
  · exact deaf_modify fun _ => rfl

theorem deaf_capture (mode : CaptureMode) (key : Key) (c : Context) (ps : List Address) :
    (capture mode key c ps).Deaf := by
  refine (deaf_callDevice _ _).bind fun _ => ?_
  cases c.operation key.batchSize ps with
  | error e =>
    exact deaf_abandonCapture.bind fun _ => (deaf_fail _).bind fun _ => deaf_callDevice _ _
  | ok op => exact (deaf_modify fun _ => rfl).bind fun _ => deaf_callDevice _ _

theorem deaf_buildKey (mode : CaptureMode) (scratch : Address) (key : Key) (m : Model) :
    (buildKey mode scratch key m).Deaf := by
  refine (deaf_note _).bind fun _ => (deaf_prepareContext _ _).bind fun c => ?_
  refine (deaf_placeBindings _ _).bind fun ps => (deaf_capture _ _ _ _).bind fun g => ?_
  refine (deaf_modify fun _ => rfl).bind fun _ => (deaf_entryOf (fun _ => rfl) _ _).bind fun kept => ?_
  exact (deaf_callDevice _ _).bind fun e => deaf_modify fun _ => rfl

theorem deaf_buildKeys (mode : CaptureMode) (scratch : Address) (entries : List (Key × Model)) :
    (buildKeys mode scratch entries).Deaf := by
  induction entries with
  | nil => exact deaf_pure ()
  | cons entry entries ih => exact (deaf_buildKey mode scratch entry.1 entry.2).bind fun _ => ih

theorem deaf_allocateStack : allocateStack.Deaf := by
  refine deaf_get_bind (fun _ => rfl) fun w => (deaf_callDevice _ _).bind fun s => ?_
  exact (deaf_note _).bind fun _ => deaf_modify fun _ => rfl

theorem deaf_allocateActivations : allocateActivations.Deaf := by
  refine deaf_get_bind (fun _ => rfl) fun w => (deaf_callDevice _ _).bind fun a => ?_
  exact (deaf_note _).bind fun _ => (deaf_modify fun _ => rfl).bind fun _ => deaf_pure _

theorem deaf_buildRegistered : buildRegistered.Deaf := by
  refine deaf_allocateStack.bind fun _ => deaf_allocateActivations.bind fun scratch => ?_
  refine deaf_get_bind (fun _ => rfl) fun w => (deaf_note _).bind fun _ => ?_
  refine (deaf_buildKeys _ _ _).bind fun _ => deaf_get_bind (fun _ => rfl) fun w' => ?_
  exact deaf_note _

theorem deaf_buildAll : buildAll.Deaf := by
  refine deaf_get_bind (fun _ => rfl) fun w => ?_
  cases w.phase with
  | built =>
    -- Nothing runs after the failure.
    exact fun _ => ⟨rfl, rfl⟩
  | registering =>
    refine (deaf_modify fun _ => rfl).bind fun _ => deaf_get_bind (fun _ => rfl) fun w' => ?_
    cases w'.models.entries.isEmpty with
    | true => exact deaf_note _
    | false => exact deaf_buildRegistered

/-- A build comes to the same whatever was told before. -/
theorem build_congr (h : w.silent = w'.silent) :
    w.build.1 = w'.build.1 ∧ w.build.2.silent = w'.build.2.silent :=
  deaf_buildAll.congr h

end GraphReplay.Workspace
