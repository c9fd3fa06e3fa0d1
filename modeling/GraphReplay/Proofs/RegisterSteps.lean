import GraphReplay.Proofs.RegistrationOrder

/-!
# How a registration can go

Every way in which a registration can end, with the ledger of its model and the
workspace that it leaves behind. It is refused before the model is touched, it
fails to have a context created, it finds that the model cannot be measured, or
it is accepted. Only the first two leave the ledger as it was: the third comes
too late, when the model has its new name and its new context already, and only
the context is released again.

`register_registers` says that these are all.
-/

namespace GraphReplay.Workspace

variable {w w' : Workspace} {r : Registration} {l l' : Ledger} {answer : Except Abort Unit}

/-- How a registration can go. -/
inductive Registers (w : Workspace) (r : Registration) (l : Ledger) :
    Except Abort Unit → Ledger → Workspace → Prop
  | refused {e : FatalError} : w.checkRegistration r.name r.model r.batchSize = .error e →
      Registers w r l (.error (.fatal e)) l w
  | contextless : w.checkRegistration r.name r.model r.batchSize = .ok () → w.opens r = true →
      r.model.failsContext = true →
      Registers w r l (.error (.fatal (.model r.name .noContext))) l w
  /-- The context that was opened is released. -/
  | unmeasured {d : Defect} : w.checkRegistration r.name r.model r.batchSize = .ok () →
      (w.opens r = true → r.model.failsContext = false) →
      w.planner.requirements r.model w.device.alignment.bytes = .error d →
      Registers w r l (.error (.defect d))
        { w.ledgerAfter r l with contextsLive := l.contextsLive } w
  | accepted {q : Requirements} : w.Accepts r q →
      Registers w r l (.ok ()) (w.ledgerAfter r l) (w.enlisted r q)

/-- A context that was opened just now is released. -/
theorem release_ledgerAfter (w : Workspace) (r : Registration) (l : Ledger) :
    (if (if w.contexts.has r.name then none else some (r.model.contextFor r.name)).isSome
      then (w.ledgerAfter r l).release else w.ledgerAfter r l) =
      { w.ledgerAfter r l with contextsLive := l.contextsLive } := by
  rw [ledgerAfter, opens]
  by_cases hc : w.contexts.has r.name <;>
    simp [hc, Ledger.addContexts, Ledger.rename, Ledger.release]

/-- These are all the ways. -/
theorem register_registers (w : Workspace) (r : Registration) (l : Ledger) :
    Registers w r l (w.register l r.name r.model r.batchSize).1
      (w.register l r.name r.model r.batchSize).2.1
      (w.register l r.name r.model r.batchSize).2.2 := by
  rw [register]
  cases hcheck : w.checkRegistration r.name r.model r.batchSize with
  | error e => exact .refused hcheck
  | ok _ =>
    by_cases hf : w.opens r = true ∧ r.model.failsContext = true
    · simp only [openContext_eq, if_pos hf]
      exact .contextless hcheck hf.1 hf.2
    · have hcontext (hopens : w.opens r = true) : r.model.failsContext = false :=
        Bool.eq_false_iff.2 fun hfails => hf ⟨hopens, hfails⟩
      cases hq : w.planner.requirements r.model w.device.alignment.bytes with
      | error d =>
        simp only [openContext_eq, if_neg hf, release_ledgerAfter]
        exact .unmeasured hcheck hcontext hq
      | ok q =>
        simp only [openContext_eq, if_neg hf, enroll_eq]
        exact .accepted ⟨hcheck, hcontext, hq⟩

end GraphReplay.Workspace
