import GraphReplay.Proofs.Placement
import GraphReplay.Proofs.Rejection

/-!
# The two phases of a workspace

A workspace is built once. A build closes registration before anything in it can
fail, so whatever it comes to there is no second one: from then on registrations
and builds are turned down, and what lookups read stays as the build left it,
whatever else is done with the workspace, its device and its models.

* `after`: the workspace after any requests;
* `after_bare`: as long as it was not built, there is nothing to look up;
* `Keeps`: what is registered and what is looked up is the same;
* `serve_keeps`: no request changes it once registration is closed;
* `build_is_final`: so nothing ever does, by induction on the requests.
-/

namespace GraphReplay.Workspace

open Procedure

variable {w w' w'' : Workspace}

/-- The ledgers and the workspace after some requests in turn. -/
def after (w : Workspace) (ls : Ledgers) : List Request → Ledgers × Workspace
  | [] => (ls, w)
  | q :: qs =>
    let (_, ls', w') := w.serve ls q
    w'.after ls' qs

theorem after_nil (w : Workspace) (ls : Ledgers) : w.after ls [] = (ls, w) := rfl

/-! ## Before the build -/

/-- Only a build closes registration, and only a build fills anything. -/
theorem serve_bare {q : Request} (hq : q ≠ .build) (ls : Ledgers) (hp : w.phase = .registering)
    (hw : w.Bare) : (w.serve ls q).2.2.phase = .registering ∧ (w.serve ls q).2.2.Bare := by
  cases q with
  | register name m batchSize =>
    rw [serve]
    rcases register_cases w (ls m.label) name m batchSize with h | ⟨r, -, -, h⟩
    · simp only [h]
      exact ⟨hp, hw⟩
    · simp only [h]
      exact ⟨hp, hw.enroll _ _ _ _ _⟩
  | build => exact absurd rfl hq
  | launch e => exact ⟨hp, hw.device _⟩
  | synchronize =>
    rw [serve, synchronize, Procedure.on_callDevice]
    exact ⟨hp, hw.device _⟩
  | device f => exact ⟨hp, hw.device _⟩
  | model label f => exact ⟨hp, hw⟩

theorem after_bare {qs : List Request} (hqs : .build ∉ qs) (ls : Ledgers)
    (hp : w.phase = .registering) (hw : w.Bare) :
    (w.after ls qs).2.phase = .registering ∧ (w.after ls qs).2.Bare := by
  induction qs generalizing w ls with
  | nil => exact ⟨hp, hw⟩
  | cons q qs ih =>
    rw [List.mem_cons, not_or] at hqs
    obtain ⟨hp', hw'⟩ := serve_bare (Ne.symm hqs.1) ls hp hw
    exact ih hqs.2 _ hp' hw'

/-! ## After the build -/

/-- The same models are registered, and lookups find the same. -/
structure Keeps (w w' : Workspace) : Prop where
  phase : w'.phase = w.phase
  planner : w'.planner = w.planner
  models : w'.models = w.models
  modelsByKey : w'.modelsByKey = w.modelsByKey
  bindings : w'.bindings = w.bindings
  graphs : w'.graphs = w.graphs
  executors : w'.executors = w.executors

theorem Keeps.refl (w : Workspace) : w.Keeps w := ⟨rfl, rfl, rfl, rfl, rfl, rfl, rfl⟩

theorem Keeps.trans (h : w.Keeps w') (h' : w'.Keeps w'') : w.Keeps w'' where
  phase := h'.phase.trans h.phase
  planner := h'.planner.trans h.planner
  models := h'.models.trans h.models
  modelsByKey := h'.modelsByKey.trans h.modelsByKey
  bindings := h'.bindings.trans h.bindings
  graphs := h'.graphs.trans h.graphs
  executors := h'.executors.trans h.executors

theorem keeps_device (w : Workspace) (d : Device) : w.Keeps { w with device := d } :=
  ⟨rfl, rfl, rfl, rfl, rfl, rfl, rfl⟩

theorem Keeps.keys_eq (h : w.Keeps w') : w'.keys = w.keys := congrArg Table.keys h.modelsByKey

theorem register_of_built (hp : w.phase = .built) (l : Ledger) (name : String) (m : Model)
    (batchSize : Nat) :
    w.register l name m batchSize = (.error (.fatal (.registrationClosed name)), l, w) := by
  have hclosed : w.checkRegistration name m batchSize = .error (.registrationClosed name) :=
    if_pos (by simp [hp])
  rw [register, hclosed]

/-- A registration is turned down and changes no ledger either. -/
theorem serve_register_of_built (hp : w.phase = .built) (ls : Ledgers) (name : String) (m : Model)
    (batchSize : Nat) :
    w.serve ls (.register name m batchSize) =
      (.ended (.error (.fatal (.registrationClosed name))), ls, w) := by
  rw [serve, register_of_built hp]
  simp only [Function.update_eq_self]

theorem serve_build_of_built (hp : w.phase = .built) (ls : Ledgers) :
    w.serve ls .build = (.ended (.error (.fatal .alreadyBuilt)), ls, w) := by
  rw [serve, build_of_built hp]

/-- Once registration is closed, only the device and the ledgers can still change. -/
theorem serve_keeps (hp : w.phase = .built) (ls : Ledgers) (q : Request) :
    w.Keeps (w.serve ls q).2.2 := by
  cases q with
  | register name m batchSize =>
    rw [serve_register_of_built hp]
    exact .refl w
  | build =>
    rw [serve_build_of_built hp]
    exact .refl w
  | launch e => exact w.keeps_device _
  | synchronize =>
    rw [serve, synchronize, on_callDevice]
    exact w.keeps_device _
  | device f => exact w.keeps_device _
  | model label f => exact .refl w

theorem after_keeps (hp : w.phase = .built) (ls : Ledgers) (qs : List Request) :
    w.Keeps (w.after ls qs).2 := by
  induction qs generalizing w ls with
  | nil => exact .refl w
  | cons q qs ih =>
    have hkeeps := serve_keeps hp ls q
    exact hkeeps.trans (ih (hkeeps.phase.trans hp) _)

/-- A build is final, whatever it comes to and whatever is asked later, of the workspace or of its
    device. Registration is closed: each registration and each build is turned down, the
    registration with the name in the answer, and changes neither the workspace with its device
    nor any model. The plan, the registered keys and models, the tensor addresses and the
    executors are those that the build left. -/
theorem build_is_final (w : Workspace) (ls : Ledgers) (qs : List Request) :
    w.build.2.phase = .built ∧
      ∃ ls' w', w.build.2.after ls qs = (ls', w') ∧ w'.phase = .built ∧
        (∀ name m batchSize, w'.serve ls' (.register name m batchSize) =
          (.ended (.error (.fatal (.registrationClosed name))), ls', w')) ∧
        w'.serve ls' .build = (.ended (.error (.fatal .alreadyBuilt)), ls', w') ∧
        w'.plan = w.build.2.plan ∧ w'.keys = w.build.2.keys ∧
        (∀ name, w'.models.find? name = w.build.2.models.find? name) ∧
        (∀ name, w'.addresses name = w.build.2.addresses name) ∧
        ∀ key, w'.executor key = w.build.2.executor key := by
  have hp : w.build.2.phase = .built := (build_builds w).phase_eq
  have hkeeps := after_keeps hp ls qs
  have hp' := hkeeps.phase.trans hp
  refine ⟨hp, _, _, rfl, hp', serve_register_of_built hp' _, serve_build_of_built hp' _, ?_, ?_,
    fun name => ?_, fun name => ?_, fun key => ?_⟩
  · rw [plan, hkeeps.planner, plan]
  · exact hkeeps.keys_eq
  · rw [hkeeps.models]
  · rw [addresses, hkeeps.bindings, addresses]
  · rw [executor, hkeeps.executors, executor]

end GraphReplay.Workspace
