import GraphReplay.Proofs.Reachable
import Mathlib.Logic.Function.Basic

/-!
# Registrations that are turned down

A registration that is turned down may leave something on the ledger of its
model, a name and a context that was created and released again, and nothing
anywhere else. A workspace never answers by what is on a ledger: it renames a
model before it creates a context of it. So whatever is asked of it later is
answered as if the registration had not been tried.

* `register_ledger`: a registration comes to the same whatever the ledger says;
* `transcript`: what a workspace answers to requests in turn, while others use
  its device and its models;
* `rejected_registration_leaves_no_trace`: a registration that is turned down does
  not show in it.
-/

namespace GraphReplay

/-- The ledgers of all model objects, by their labels. -/
abbrev Ledgers := String → Ledger

namespace Workspace

variable {w : Workspace} {name : String} {m : Model} {batchSize : Nat}

/-! ## The ledger of a registration -/

/-- What a registration answers, and the workspace after it, do not depend on the ledger. -/
theorem register_ledger (w : Workspace) (l l' : Ledger) (name : String) (m : Model)
    (batchSize : Nat) :
    (w.register l name m batchSize).1 = (w.register l' name m batchSize).1 ∧
      (w.register l name m batchSize).2.2 = (w.register l' name m batchSize).2.2 := by
  rw [register, register]
  cases w.checkRegistration name m batchSize with
  | error e => exact ⟨rfl, rfl⟩
  | ok _ =>
    by_cases hc : w.contexts.has name
    · simp only [openContext, if_pos hc]
      cases w.planner.requirements m w.device.alignment.bytes <;> exact ⟨rfl, rfl⟩
    · by_cases hf : m.failsContext
      · simp [openContext, Model.createContext, hc, hf, Except.map]
      · -- The context is named after the name that the model has just got.
        simp only [openContext, if_neg hc, Model.createContext, if_neg hf, Except.map,
          Ledger.rename]
        cases w.planner.requirements m w.device.alignment.bytes <;> exact ⟨rfl, rfl⟩

/-- A context that is opened for a registration is counted. -/
theorem openContext_live {l l' : Ledger} {c : Option Context}
    (h : w.openContext name m l = .ok (c, l')) :
    l'.contextsLive = l.contextsLive + c.toList.length := by
  rw [openContext] at h
  split at h
  · cases h
    rfl
  · obtain ⟨⟨c', l₁⟩, hcreate, h⟩ := Failure.map_eq_ok_iff.1 h
    rw [Model.createContext] at hcreate
    split at hcreate
    · cases hcreate
    · cases hcreate
      cases h
      rfl

/-- A registration that is turned down leaves the workspace as it is, and as many live contexts: the
    one that was opened for it is released. -/
theorem register_of_error {l : Ledger} {a : Abort}
    (h : (w.register l name m batchSize).1 = .error a) :
    (w.register l name m batchSize).2.2 = w ∧
      (w.register l name m batchSize).2.1.contextsLive = l.contextsLive := by
  rw [register] at h ⊢
  cases hcheck : w.checkRegistration name m batchSize with
  | error e => exact ⟨rfl, rfl⟩
  | ok _ =>
    cases hopen : w.openContext name m l with
    | error e => exact ⟨rfl, rfl⟩
    | ok opened =>
      obtain ⟨c, l'⟩ := opened
      have hlive := openContext_live hopen
      cases hr : w.planner.requirements m w.device.alignment.bytes with
      | ok r =>
        simp only [hcheck, hopen, hr] at h
        cases h
      | error d =>
        refine ⟨rfl, ?_⟩
        cases c with
        | none => exact hlive
        | some c =>
          have hreleased : l'.contextsLive - 1 = l.contextsLive := Nat.sub_eq_of_eq_add hlive
          exact hreleased

/-! ## Requests -/

/-- What is asked of a workspace, or done by others around it. -/
inductive Request
  | register (name : String) (m : Model) (batchSize : Nat)
  | build
  | launch (e : Executor)
  | synchronize
  /-- Others use the device. -/
  | device (f : Device → Device)
  /-- The owner of a model renames it, or creates and releases contexts of it. -/
  | model (label : String) (f : Ledger → Ledger)

/-- What is answered to a request. -/
inductive Reply
  | none
  | ended (r : Except Abort Unit)
  | launched (r : Except (Failure DeviceError) Unit)

/-- Serve one request. -/
def serve (w : Workspace) (ls : Ledgers) : Request → Reply × Ledgers × Workspace
  | .register name m batchSize =>
    let (r, l, w') := w.register (ls m.label) name m batchSize
    (.ended r, Function.update ls m.label l, w')
  | .build =>
    let (r, w') := w.build
    (.ended r, ls, w')
  | .launch e =>
    let (r, w') := w.launch e
    (.launched r, ls, w')
  | .synchronize =>
    let (r, w') := w.synchronize
    (.ended r, ls, w')
  | .device f => (.none, ls, { w with device := f w.device })
  | .model label f => (.none, Function.update ls label (f (ls label)), w)

/-- The replies to some requests in turn, each with the workspace after it, by which all lookups
    are answered, and what a drop would do. -/
def transcript (w : Workspace) (ls : Ledgers) : List Request → List (Reply × Workspace)
  | [] => []
  | q :: qs =>
    let (r, ls', w') := w.serve ls q
    (r, w') :: w'.transcript ls' qs

/-- What is served does not depend on the ledgers. -/
theorem serve_ledger (w : Workspace) (ls ls' : Ledgers) (q : Request) :
    (w.serve ls q).1 = (w.serve ls' q).1 ∧ (w.serve ls q).2.2 = (w.serve ls' q).2.2 := by
  cases q with
  | register name m batchSize =>
    obtain ⟨hr, hw⟩ := w.register_ledger (ls m.label) (ls' m.label) name m batchSize
    exact ⟨congrArg Reply.ended hr, hw⟩
  | build => exact ⟨rfl, rfl⟩
  | launch e => exact ⟨rfl, rfl⟩
  | synchronize => exact ⟨rfl, rfl⟩
  | device f => exact ⟨rfl, rfl⟩
  | model label f => exact ⟨rfl, rfl⟩

/-- So no number of requests tells the ledgers apart, by induction on the requests. -/
theorem transcript_ledger (w : Workspace) (ls ls' : Ledgers) (qs : List Request) :
    w.transcript ls qs = w.transcript ls' qs := by
  induction qs generalizing w ls ls' with
  | nil => rfl
  | cons q qs ih =>
    obtain ⟨hr, hw⟩ := w.serve_ledger ls ls' q
    rw [transcript, transcript]
    dsimp only
    rw [hr, hw, ih]

/-- A registration that is turned down, for whatever reason, leaves no trace: the workspace is as it
    was, with its device, the model has as many live contexts as before, and all that is asked
    later is answered as if the registration had not been tried. -/
theorem rejected_registration_leaves_no_trace (w : Workspace) (ls : Ledgers) {a : Abort}
    (h : (w.register (ls m.label) name m batchSize).1 = .error a) :
    (w.register (ls m.label) name m batchSize).2.2 = w ∧
      (w.register (ls m.label) name m batchSize).2.1.contextsLive = (ls m.label).contextsLive ∧
      ∀ qs, transcript (w.register (ls m.label) name m batchSize).2.2
        (Function.update ls m.label (w.register (ls m.label) name m batchSize).2.1) qs =
          w.transcript ls qs := by
  obtain ⟨hw, hlive⟩ := register_of_error h
  refine ⟨hw, hlive, fun qs => ?_⟩
  rw [hw]
  exact w.transcript_ledger _ _ qs

/-- A model whose tensors fit in no memory. -/
def immense : Model :=
  { label := "i", maxBatchSize := 4, bindings := [⟨"x", 0x8000000000000000, true⟩] }

/-- It gets as far as to have a context created, and the build that comes after it is not told. -/
theorem immense_leaves_no_trace :
    (sample.register {} "c" immense 1).1 = .error (.defect .mulOverflow) ∧
      (sample.register {} "c" immense 1).2.1.contextsCreated = 1 ∧
      (sample.register {} "c" immense 1).2.1.contextsLive = 0 ∧
      (sample.register {} "c" immense 1).2.2 = sample ∧
      transcript (sample.register {} "c" immense 1).2.2
          (Function.update (fun _ => {}) "i" (sample.register {} "c" immense 1).2.1) [.build] =
        sample.transcript (fun _ => {}) [.build] := by
  have hrejected : (sample.register {} "c" immense 1).1 = .error (.defect .mulOverflow) := rfl
  obtain ⟨hw, hlive, hlater⟩ :=
    rejected_registration_leaves_no_trace sample (fun _ => {}) hrejected
  exact ⟨hrejected, by decide +kernel, hlive, hw, hlater [.build]⟩

end Workspace

end GraphReplay
