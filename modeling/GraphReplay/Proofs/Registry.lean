import GraphReplay.Proofs.Effect
import GraphReplay.Proofs.Order
import GraphReplay.Proofs.Stack

/-!
# The registered models

What the tables of a workspace say about its models at any time (`Registry`): the
tables by key and by name agree, no key asks for more than its model reports to
take, every name has the context that was made for it, and the plan suffices for
each model.

* `register_cases`: a registration writes nothing down, or all of it;
* `Reachable.induct`: so what survives the writing holds of every reachable workspace;
* `Retains`: what a build leaves alone, whatever comes of it;
* `Reachable.registry`: every reachable workspace has a `Registry`.
-/

namespace GraphReplay

/-- The context of a model that is registered under `name`, before anything is launched. -/
def Model.contextFor (m : Model) (name : String) : Context :=
  { model := m, kernel := name ++ "::forward" }

/-- A context apart from its scratch memory. -/
def Context.unset (c : Context) : Context := { c with scratch := none }

@[simp] theorem Context.unset_setScratch (c : Context) (base : Address) :
    (c.setScratch base).unset = c.unset := rfl

theorem Model.createContext_eq_ok_iff {m : Model} {l l' : Ledger} {c : Context} :
    m.createContext l = .ok (c, l') ↔ m.failsContext = false ∧ c = m.contextFor l.displayName ∧
      l' = { l with contextsCreated := l.contextsCreated + 1, contextsLive := l.contextsLive + 1 } := by
  rw [createContext]
  split
  · next h => simp [h]
  · next h => simp [h, contextFor, eq_comm]

namespace Workspace

open Failure

variable {w w' w'' : Workspace} {name : String} {m : Model} {batchSize : Nat} {l : Ledger}

/-! ## Registrations -/

/-- What is looked at before a model is touched. -/
theorem checkRegistration_eq_ok_iff :
    w.checkRegistration name m batchSize = .ok () ↔
      w.phase = .registering ∧ batchSize ≠ 0 ∧ batchSize ≤ m.reportedMaxBatchSize ∧
        w.modelsByKey.find? ⟨name, batchSize⟩ = none ∧
        ∀ m', w.models.find? name = some m' → m' = m := by
  rw [checkRegistration]
  by_cases hp : w.phase = .registering
  · rw [if_neg (not_not_intro hp)]
    by_cases hn : batchSize = 0
    · simp [hn]
    · rw [if_neg hn]
      by_cases hmax : m.reportedMaxBatchSize < batchSize
      · simp [if_pos hmax, Nat.not_le.2 hmax]
      · rw [if_neg hmax, Table.has]
        cases hk : w.modelsByKey.find? ⟨name, batchSize⟩ with
        | some m' => simp
        | none =>
          cases hm : w.models.find? name with
          | none => simp [hp, hn, Nat.not_lt.1 hmax]
          | some m' => by_cases h : m' = m <;> simp [hp, hn, Nat.not_lt.1 hmax, h]
  · simp [hp]

/-- A name has its context afterwards: the one it had, or a new one with the name in it. -/
theorem openContext_eq_ok {c : Option Context} {l' : Ledger}
    (h : w.openContext name m l = .ok (c, l')) :
    c = if w.contexts.has name then none else some (m.contextFor name) := by
  rw [openContext] at h
  split at h
  · next hc =>
    cases h
    exact (if_pos hc).symm
  · next hc =>
    obtain ⟨⟨c', l₁⟩, hcreate, h⟩ := map_eq_ok_iff.1 h
    cases h
    rw [if_neg hc, (Model.createContext_eq_ok_iff.1 hcreate).2.1]
    rfl

/-- A registration writes nothing down, or all of it. -/
theorem register_cases (w : Workspace) (l : Ledger) (name : String) (m : Model) (batchSize : Nat) :
    (w.register l name m batchSize).2.2 = w ∨
      ∃ r, w.checkRegistration name m batchSize = .ok () ∧
        w.planner.requirements m w.device.alignment.bytes = .ok r ∧
        (w.register l name m batchSize).2.2 = w.enroll name m batchSize
          (if w.contexts.has name then none else some (m.contextFor name)) r := by
  rw [register]
  cases hcheck : w.checkRegistration name m batchSize with
  | error e => exact .inl rfl
  | ok _ =>
    cases hopen : w.openContext name m l with
    | error e => exact .inl rfl
    | ok c =>
      cases hr : w.planner.requirements m w.device.alignment.bytes with
      | error d => exact .inl rfl
      | ok r =>
        have hc := openContext_eq_ok hopen
        exact .inr ⟨r, rfl, rfl, by rw [← hc]⟩

/-- What holds at first, and survives accepted registrations, builds and any use of the device, holds
    of all reachable workspaces. -/
theorem Reachable.induct {I : Workspace → Prop} {held : List Buffer}
    (create : ∀ d g, g.validate = .ok () → I (ofDevice d g))
    (enroll : ∀ held w name m batchSize r, w.Reachable held →
      w.checkRegistration name m batchSize = .ok () →
      w.planner.requirements m w.device.alignment.bytes = .ok r → I w →
      I (w.enroll name m batchSize
        (if w.contexts.has name then none else some (m.contextFor name)) r))
    (build : ∀ held w, w.Reachable held → I w → I w.build.2)
    (device : ∀ w d, d.alignment = w.device.alignment → I w → I { w with device := d })
    (collect : ∀ w, I w → I { w with journal := [] })
    (hw : w.Reachable held) : I w := by
  induction hw with
  | create _ h =>
    obtain ⟨_, hg, h⟩ := bind_eq_ok_iff.1 h
    cases h
    exact create _ _ hg
  | @register held w l name m batchSize hw ih =>
    rcases register_cases w l name m batchSize with h | ⟨r, hcheck, hr, h⟩
    · rwa [h]
    · rw [h]
      exact enroll _ _ _ _ _ _ hw hcheck hr ih
  | build hw ih => exact build _ _ hw ih
  | launch e _ ih => exact device _ _ (Device.after_alignment _ (.launch e)) ih
  | synchronize _ ih =>
    rw [Workspace.synchronize, Procedure.on_callDevice]
    exact device _ _ (Device.after_alignment _ .synchronize) ih
  | device _ h ih => exact device _ _ h.alignment_eq ih
  | collect _ ih => exact collect _ ih

/-! ## The registry -/

/-- What the tables say about the registered models. -/
structure Registry (w : Workspace) : Prop where
  ordered : w.modelsByKey.Ordered
  keyed : ∀ {key m}, w.modelsByKey.find? key = some m → w.models.find? key.name = some m
  sized : ∀ {key m}, w.modelsByKey.find? key = some m →
    key.batchSize ≠ 0 ∧ key.batchSize ≤ m.reportedMaxBatchSize
  contexts : ∀ name, (w.contexts.find? name).map Context.unset =
    (w.models.find? name).map (·.contextFor name)
  planned : ∀ {name m}, w.models.find? name = some m →
    ∃ r, w.planner.requirements m w.device.alignment.bytes = .ok r ∧
      r.bindings ≤ w.plan.stack ∧ r.activations ≤ w.plan.activations

/-- A registered name has a context for its model. -/
theorem Registry.context_of_model (hw : w.Registry) (h : w.models.find? name = some m) :
    ∃ c, w.contexts.find? name = some c ∧ c.unset = m.contextFor name := by
  have hc := hw.contexts name
  rwa [h, Option.map_some, Option.map_eq_some_iff] at hc

/-- A context is for the model of its name. -/
theorem Registry.model_of_context (hw : w.Registry) {c : Context}
    (h : w.contexts.find? name = some c) :
    ∃ m, w.models.find? name = some m ∧ c.unset = m.contextFor name := by
  have hc := hw.contexts name
  rw [h, Option.map_some, eq_comm, Option.map_eq_some_iff] at hc
  obtain ⟨m, hm, hc⟩ := hc
  exact ⟨m, hm, hc.symm⟩

/-- A workspace without models has no keys. -/
theorem Registry.keys_eq_nil (hw : w.Registry) (h : w.models.entries.isEmpty) : w.keys = [] := by
  refine List.eq_nil_iff_forall_not_mem.2 fun key hkey => ?_
  obtain ⟨m, hm⟩ := Table.mem_keys_iff.1 hkey
  have hmem := Table.mem_of_find? (hw.keyed hm)
  rw [List.isEmpty_iff.1 h] at hmem
  cases hmem

theorem registry_ofDevice (d : Device) (g : Granularity) : (ofDevice d g).Registry where
  ordered := Table.ordered_empty
  keyed h := nomatch h
  sized h := nomatch h
  contexts _ := rfl
  planned h := nomatch h

theorem Registry.enroll (hw : w.Registry) (hcheck : w.checkRegistration name m batchSize = .ok ())
    {r : Requirements} (hr : w.planner.requirements m w.device.alignment.bytes = .ok r) :
    (w.enroll name m batchSize
      (if w.contexts.has name then none else some (m.contextFor name)) r).Registry := by
  obtain ⟨-, hn, hmax, -, hsame⟩ := checkRegistration_eq_ok_iff.1 hcheck
  refine ⟨hw.ordered.insert _ _, fun {key m'} h => ?keyed, fun {key m'} h => ?sized,
    fun name' => ?contexts, fun {name' m'} h => ?planned⟩
  -- Of the entries that are there, only one under this name or this key could have changed.
  case keyed =>
    simp only [Workspace.enroll, Table.find?_insert] at h ⊢
    split at h
    · next hk => rw [← h, hk, if_pos rfl]
    · have hm := hw.keyed h
      split
      · next hname => rw [hsame m' (hname ▸ hm)]
      · exact hm
  case sized =>
    simp only [Workspace.enroll, Table.find?_insert] at h
    split at h
    · next hk =>
      cases h
      exact hk ▸ ⟨hn, hmax⟩
    · exact hw.sized h
  case contexts =>
    simp only [Workspace.enroll, Table.find?_insert]
    by_cases hname : name' = name
    · subst hname
      rw [if_pos rfl]
      cases hc : w.contexts.find? name' with
      | none => simp [Table.has, hc, Table.find?_insert, Model.contextFor, Context.unset]
      | some c =>
        -- The name has a context, so it has a model, which can only be this one.
        obtain ⟨m', hm', hunset⟩ := hw.model_of_context hc
        simp [Table.has, hc, hunset, hsame m' hm']
    · rw [if_neg hname]
      split
      · rw [Table.find?_insert_of_ne _ _ hname]
        exact hw.contexts name'
      · exact hw.contexts name'
  case planned =>
    simp only [Workspace.enroll, Table.find?_insert] at h
    split at h
    · cases h
      exact ⟨r, hr, Nat.le_max_right _ _, Nat.le_max_right _ _⟩
    · obtain ⟨r', hr', hb, ha⟩ := hw.planned h
      exact ⟨r', hr', Nat.le_trans hb (Nat.le_max_left _ _), Nat.le_trans ha (Nat.le_max_left _ _)⟩

/-! ## What a build leaves alone -/

/-- The same models are registered in the same contexts, apart from their scratch memory, with the
    same plan and on the same alignment. -/
structure Retains (w w' : Workspace) : Prop where
  models : w'.models = w.models
  modelsByKey : w'.modelsByKey = w.modelsByKey
  planner : w'.planner = w.planner
  alignment : w'.device.alignment = w.device.alignment
  contexts : ∀ name, (w'.contexts.find? name).map Context.unset =
    (w.contexts.find? name).map Context.unset

theorem Retains.refl (w : Workspace) : w.Retains w := ⟨rfl, rfl, rfl, rfl, fun _ => rfl⟩

theorem Retains.trans (h : w.Retains w') (h' : w'.Retains w'') : w.Retains w'' where
  models := h'.models.trans h.models
  modelsByKey := h'.modelsByKey.trans h.modelsByKey
  planner := h'.planner.trans h.planner
  alignment := h'.alignment.trans h.alignment
  contexts name := (h'.contexts name).trans (h.contexts name)

theorem Retains.keys_eq (h : w.Retains w') : w'.keys = w.keys := congrArg Table.keys h.modelsByKey

theorem Registry.retained (hw : w.Registry) (h : w.Retains w') : w'.Registry where
  ordered := h.modelsByKey ▸ hw.ordered
  keyed hk := by
    rw [h.modelsByKey] at hk
    rw [h.models]
    exact hw.keyed hk
  sized hk := by
    rw [h.modelsByKey] at hk
    exact hw.sized hk
  contexts name := by
    rw [h.contexts, h.models]
    exact hw.contexts name
  planned hm := by
    rw [h.models] at hm
    rw [h.planner, h.alignment, plan, h.planner]
    exact hw.planned hm

/-- Another device with the same alignment makes no difference. -/
theorem Retains.of_device {d : Device} (h : d.alignment = w.device.alignment) :
    w.Retains { w with device := d } :=
  ⟨rfl, rfl, rfl, h, fun _ => rfl⟩

variable {mode : CaptureMode} {scratch : Address} {key : Key}

theorem retains_prepared {c : Context} (hc : w.contexts.find? key.name = some c) :
    w.Retains (w.prepared key c scratch) where
  models := rfl
  modelsByKey := rfl
  planner := rfl
  alignment := rfl
  contexts name := by
    simp only [prepared, tell, Table.find?_insert]
    split
    · next hname => rw [hname, hc, Option.map_some, Context.unset_setScratch, Option.map_some]
    · rfl

theorem Places.retains {r : Except Abort (List Address)} (h : Places name m w r w') :
    w.Retains w' := by
  cases h <;> exact ⟨rfl, rfl, rfl, rfl, fun _ => rfl⟩

theorem Captures.alignment_eq {c : Context} {ps : List Address} {d d' : Device}
    {r : Except Abort Graph} (h : Captures mode key c ps d r d') : d'.alignment = d.alignment :=
  h.called.alignment_eq

theorem BuildsKey.retains {r : Except Abort Unit} (h : BuildsKey mode scratch key m w r w') :
    w.Retains w' := by
  cases h with
  | contextless _ => exact ⟨rfl, rfl, rfl, rfl, fun _ => rfl⟩
  | unplaced hc hp => exact (retains_prepared hc).trans hp.retains
  | uncaptured hc hp hcap =>
    exact ((retains_prepared hc).trans hp.retains).trans (.of_device hcap.alignment_eq)
  | uninstantiated hc hp hcap hi =>
    have hd := (Device.called_of_instantiate hi).alignment_eq
    exact ((retains_prepared hc).trans hp.retains).trans
      ⟨rfl, rfl, rfl, hd.trans hcap.alignment_eq, fun _ => rfl⟩
  | built hc hp hcap hi =>
    have hd := (Device.called_of_instantiate hi).alignment_eq
    exact ((retains_prepared hc).trans hp.retains).trans
      ⟨rfl, rfl, rfl, hd.trans hcap.alignment_eq, fun _ => rfl⟩

theorem BuildsKeys.retains {entries : List (Key × Model)} {r : Except Abort Unit}
    (h : BuildsKeys mode scratch entries w r w') : w.Retains w' := by
  induction h with
  | nil => exact .refl _
  | stop hkey => exact hkey.retains
  | cons hkey _ ih => exact hkey.retains.trans ih

theorem retains_furnished {s : BindingStack} {a : ActivationSpace} {d d' : Device}
    (hs : BindingStack.create w.device w.plan.stack = (.ok s, d))
    (ha : ActivationSpace.create d w.plan.activations = (.ok a, d')) :
    w.Retains (w.furnished s a d d') := by
  have hd := Device.alignment_of_answer (BindingStack.create_alignment _ _) hs
  have hd' := Device.alignment_of_answer (ActivationSpace.create_alignment _ _) ha
  exact ⟨rfl, rfl, rfl, hd'.trans hd, fun _ => rfl⟩

/-- Whatever comes of a build. -/
theorem Builds.retains {r : Except Abort Unit} (h : Builds w r w') : w.Retains w' := by
  cases h with
  | again _ => exact .refl _
  | empty _ _ => exact ⟨rfl, rfl, rfl, rfl, fun _ => rfl⟩
  | noStack _ _ hs =>
    have hd := Device.alignment_of_answer (BindingStack.create_alignment _ _) hs
    exact ⟨rfl, rfl, rfl, hd, fun _ => rfl⟩
  | noActivations _ _ hs ha =>
    have hd := Device.alignment_of_answer (BindingStack.create_alignment _ _) hs
    have hd' := Device.alignment_of_answer (ActivationSpace.create_alignment _ _) ha
    exact ⟨rfl, rfl, rfl, hd'.trans hd, fun _ => rfl⟩
  | stopped _ _ hs ha hkeys => exact (retains_furnished hs ha).trans hkeys.retains
  | finished _ _ hs ha hkeys =>
    exact ((retains_furnished hs ha).trans hkeys.retains).trans ⟨rfl, rfl, rfl, rfl, fun _ => rfl⟩

/-- Every reachable workspace has a registry. -/
theorem Reachable.registry {held : List Buffer} (hw : w.Reachable held) : w.Registry := by
  refine hw.induct (fun d g _ => registry_ofDevice d g) (fun _ w name m n r _ hcheck hr hw => ?_)
    (fun _ w _ hw => ?_) (fun w d hd hw => ?_) (fun w hw => ?_)
  · exact hw.enroll hcheck hr
  · exact hw.retained (build_builds w).retains
  · exact hw.retained (.of_device hd)
  · exact hw.retained ⟨rfl, rfl, rfl, rfl, fun _ => rfl⟩

end Workspace

end GraphReplay
