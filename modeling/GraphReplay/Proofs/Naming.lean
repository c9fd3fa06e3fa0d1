import GraphReplay.Proofs.Admission

/-!
# What a rejected registration leaves of a name

A model takes on the name that it is registered under before its context is created,
since the context may pick the name up. If there is no context to be had, the old name
is put back. But the model is measured only after that, and if the arithmetic fails
there, nobody puts the name back: the workspace does not know of the registration, and
the model goes by its name all the same.

* `Registers.ledger_of_fatal`, `Registers.ledger_of_defect`: the ledger of the model
  after each way of being rejected;
* `rejected_registration_name`: the name is kept exactly by the registrations that end
  with a fatal error, and by those that would not have changed it;
* `rejected_registration_can_rename`: so it is not always kept.
-/

namespace GraphReplay.Workspace

variable {w w' : Workspace} {r : Registration} {l l' : Ledger}

/-- A fatal error comes before the model is touched, or what was done to the model is undone. -/
theorem Registers.ledger_of_fatal {e : FatalError}
    (h : Registers w r l (.error (.fatal e)) l' w') : l' = l := by
  cases h <;> rfl

/-- A defect is one of measuring the model, which has its new name by then. The context is released,
    but it was created. -/
theorem Registers.ledger_of_defect {d : Defect} (h : Registers w r l (.error (.defect d)) l' w') :
    w.planner.requirements r.model w.device.alignment.bytes = .error d ∧
      l' = { l with
        displayName := r.name
        contextsCreated := l.contextsCreated + (w.opens r).toNat } := by
  cases h with
  | unmeasured _ _ hd => exact ⟨hd, rfl⟩

/-- A registration that is rejected with a fatal error leaves the ledger of the model as it was. One
    that is rejected because the model cannot be measured leaves it under the new name, so the name
    is kept only if it is the same. -/
theorem rejected_registration_name (hg : w.planner.granularity.validate = .ok ()) (r : Registration)
    (l : Ledger) {a : Abort} (h : (w.register l r.name r.model r.batchSize).1 = .error a) :
    (∀ e, a = .fatal e → (w.register l r.name r.model r.batchSize).2.1 = l) ∧
    (∀ d, a = .defect d → d.Overflow ∧
      ¬r.model.Measurable w.planner.granularity w.device.alignment.bytes ∧
      (w.register l r.name r.model r.batchSize).2.1 = { l with
        displayName := r.name
        contextsCreated := l.contextsCreated + (w.opens r).toNat }) ∧
    ((w.register l r.name r.model r.batchSize).2.1.displayName = l.displayName ↔
      (∃ e, a = .fatal e) ∨ l.displayName = r.name) := by
  have hways := register_registers w r l
  rw [h] at hways
  cases a with
  | fatal e =>
    have hl := hways.ledger_of_fatal
    exact ⟨fun _ _ => hl, nofun, iff_of_true (by rw [hl]) (.inl ⟨e, rfl⟩)⟩
  | defect d =>
    obtain ⟨hd, hl⟩ := hways.ledger_of_defect
    refine ⟨nofun, ?_, ?_⟩
    · rintro _ ⟨⟩
      refine ⟨Planner.requirements_overflow hg _ _ d hd, fun hmeasurable => ?_, hl⟩
      obtain ⟨q, hq⟩ := (Planner.exists_requirements_iff hg).2 hmeasurable
      cases hq.symm.trans hd
    · rw [hl]
      constructor
      · exact fun hname => .inr hname.symm
      · rintro (⟨_, ⟨⟩⟩ | hname)
        exact hname.symm

/-- The name of a model that cannot be measured is lost, that of one with a taken key is not. -/
theorem rejected_registration_name_immense :
    (sample.register { displayName := "old" } "c" immense 1).2.1 =
        { displayName := "c", contextsCreated := 1 } ∧
      (sample.register { displayName := "old" } "a" Model.sample 4).2.1 =
        { displayName := "old" } := by
  have himmense : (sample.register { displayName := "old" } "c" immense 1).1 =
    .error (.defect .mulOverflow) := rfl
  have htaken : (sample.register { displayName := "old" } "a" Model.sample 4).1 =
    .error (.fatal (.duplicateModel "a" 4)) := by decide +kernel
  obtain ⟨-, hdefect, -⟩ := rejected_registration_name rfl ⟨"c", immense, 1⟩ _ himmense
  obtain ⟨hfatal, -, -⟩ := rejected_registration_name rfl ⟨"a", .sample, 4⟩ _ htaken
  exact ⟨(hdefect _ rfl).2.2, hfatal _ rfl⟩

/-- Not every rejected registration keeps the name. -/
theorem rejected_registration_can_rename :
    ¬∀ (w : Workspace) (r : Registration) (l : Ledger) (a : Abort), w.Reachable [] →
      (w.register l r.name r.model r.batchSize).1 = .error a →
        (w.register l r.name r.model r.batchSize).2.1.displayName = l.displayName := by
  intro h
  have hname := h sample ⟨"c", immense, 1⟩ { displayName := "old" } _ sample_reachable rfl
  exact absurd hname (by decide +kernel)

end GraphReplay.Workspace
