import GraphReplay.Proofs.Defects
import GraphReplay.Proofs.HighWater
import GraphReplay.Proofs.RegisterSteps

/-!
# What a registration depends on

Whether a registration is accepted can be said without the tables of a workspace:
by what was asked of the workspace before. There must not have been a build, and of
the registrations that were accepted none may have the same key, and those of the
same name must be of the same model object, not just of one with the same sizes. The
rest depends on the registration itself: its batch size, whether its model can have a
context created, unless the name has one, and whether the arithmetic that measures
the model stays in the words.

* `Model.Measurable`: this arithmetic, step by step, over the natural numbers;
* `accepted`: the registrations that were accepted in a run;
* `Recalls`: the tables say just what these were. Every request keeps this up
  (`Recalls.serve`), so every run does (`Recalls.after`);
* `conditions`: the conditions in the order in which they are looked at, each with
  how a registration ends that violates it, and none before it;
* `registration_follows_history`: a registration is accepted exactly if it meets them
  all, and ends by the first that it violates.
-/

namespace GraphReplay

open Failure

/-! ## Measuring a model -/

namespace Model

variable {m : Model}

/-- The arithmetic of measuring a model stays in the words: the product for each tensor and their
    sum, unless the model reports the bytes itself; the padding; the tensors with the padding; and
    both roundings, which add a whole granularity to what is no multiple. -/
structure Measurable (m : Model) (g : Granularity) (alignment : Nat) : Prop where
  products : m.report.bind (·.bindingMemory) = none →
    ∀ b ∈ m.bindings, b.bytesPerItem * m.maxBatchSize < Word.limit
  sum : m.report.bind (·.bindingMemory) = none →
    (m.bindings.map (·.bytesPerItem * m.maxBatchSize)).sum < Word.limit
  padding : m.reportedBindingsCount * alignment < Word.limit
  padded : m.bindingBytes + m.reportedBindingsCount * alignment < Word.limit
  stack : g.stack ∣ m.bindingBytes + m.reportedBindingsCount * alignment ∨
    m.bindingBytes + m.reportedBindingsCount * alignment + g.stack < Word.limit
  activations : g.activations ∣ m.activations ∨ m.activations + g.activations < Word.limit

theorem exists_addBindingMemory_iff {batchSize total : Nat} {bindings : List Binding}
    (htotal : total < Word.limit) :
    (∃ bytes, addBindingMemory batchSize total bindings = .ok bytes) ↔
      (∀ b ∈ bindings, b.bytesPerItem * batchSize < Word.limit) ∧
        total + (bindings.map (·.bytesPerItem * batchSize)).sum < Word.limit := by
  induction bindings generalizing total with
  | nil => simp [addBindingMemory, htotal]
  | cons b bindings ih =>
    simp only [addBindingMemory, bind_eq_ok_iff, Binding.bytesFor, Word.mul_eq_ok_iff,
      Word.add_eq_ok_iff, List.forall_mem_cons, List.map_cons, List.sum_cons, ← Nat.add_assoc]
    constructor
    · rintro ⟨bytes, _, ⟨hproduct, rfl⟩, _, ⟨hsum, rfl⟩, h⟩
      obtain ⟨hproducts, hsum'⟩ := (ih hsum).1 ⟨bytes, h⟩
      exact ⟨⟨hproduct, hproducts⟩, hsum'⟩
    · rintro ⟨⟨hproduct, hproducts⟩, hsum'⟩
      have hsum : total + b.bytesPerItem * batchSize < Word.limit :=
        Nat.lt_of_le_of_lt (Nat.le_add_right _ _) hsum'
      obtain ⟨bytes, h⟩ := (ih hsum).2 ⟨hproducts, hsum'⟩
      exact ⟨bytes, _, ⟨hproduct, rfl⟩, _, ⟨hsum, rfl⟩, h⟩

theorem exists_reportedBindingMemory_iff :
    (∃ bytes, m.reportedBindingMemory = .ok bytes) ↔
      (m.report.bind (·.bindingMemory) = none →
        (∀ b ∈ m.bindings, b.bytesPerItem * m.maxBatchSize < Word.limit) ∧
          (m.bindings.map (·.bytesPerItem * m.maxBatchSize)).sum < Word.limit) := by
  rw [reportedBindingMemory]
  cases m.report.bind (·.bindingMemory) with
  | some bytes => simp
  | none =>
    have hmemory : (∃ bytes, m.bindingMemory = .ok bytes) ↔ _ :=
      exists_addBindingMemory_iff (by decide)
    rw [Nat.zero_add] at hmemory
    simpa using hmemory

end Model

/-- A model can be measured exactly if the arithmetic stays in the words. -/
theorem Planner.exists_requirements_iff {p : Planner} (hp : p.granularity.validate = .ok ())
    {m : Model} {alignment : Nat} :
    (∃ q, p.requirements m alignment = .ok q) ↔ m.Measurable p.granularity alignment := by
  obtain ⟨hstack, hactivations⟩ := Granularity.validate_eq_ok_iff.1 hp
  simp only [requirements, bind_eq_ok_iff, pure_eq_ok_iff, Word.mul_eq_ok_iff, Word.add_eq_ok_iff,
    Word.alignUp_eq_ok_iff hstack, Word.alignUp_eq_ok_iff hactivations]
  constructor
  · rintro ⟨_, memory, hmemory, _, ⟨hpadding, rfl⟩, _, ⟨hpadded, rfl⟩, _, ⟨hs, rfl⟩, _, ⟨ha, rfl⟩, rfl⟩
    have hreported := Model.exists_reportedBindingMemory_iff.1 ⟨memory, hmemory⟩
    obtain rfl := Model.reportedBindingMemory_eq_ok hmemory
    exact ⟨fun h => (hreported h).1, fun h => (hreported h).2, hpadding, hpadded, hs, ha⟩
  · intro h
    obtain ⟨memory, hmemory⟩ :=
      Model.exists_reportedBindingMemory_iff.2 fun hr => ⟨h.products hr, h.sum hr⟩
    obtain rfl := Model.reportedBindingMemory_eq_ok hmemory
    exact ⟨_, _, hmemory, _, ⟨h.padding, rfl⟩, _, ⟨h.padded, rfl⟩, _, ⟨h.stack, rfl⟩, _,
      ⟨h.activations, rfl⟩, rfl⟩

namespace Workspace

variable {w w' : Workspace} {ls : Ledgers} {g : Granularity} {qs qs' : List Request}
variable {past : List Registration} {r : Registration}

/-! ## The history of a workspace -/

/-- The registration of a request that is one and is accepted. -/
def acceptedBy (w : Workspace) (ls : Ledgers) : Request → List Registration
  | .register name m batchSize =>
    match (w.register (ls m.label) name m batchSize).1 with
    | .ok _ => [⟨name, m, batchSize⟩]
    | .error _ => []
  | _ => []

/-- The registrations that are accepted of some requests in turn. -/
def accepted (w : Workspace) (ls : Ledgers) : List Request → List Registration
  | [] => []
  | q :: qs => w.acceptedBy ls q ++ (w.serve ls q).2.2.accepted (w.serve ls q).2.1 qs

/-- The workspace after the requests `qs`, of whose registrations it accepted `past`. -/
structure Recalls (w : Workspace) (g : Granularity) (qs : List Request)
    (past : List Registration) : Prop where
  granularity : w.planner.granularity = g
  phase : w.phase = .registering ↔ .build ∉ qs
  keys : ∀ name m n, w.modelsByKey.find? ⟨name, n⟩ = some m ↔ ⟨name, m, n⟩ ∈ past
  names : ∀ name m, w.models.find? name = some m ↔ ∃ n, ⟨name, m, n⟩ ∈ past
  contexts : ∀ name, w.contexts.has name = true ↔ ∃ r ∈ past, r.name = name

theorem recalls_ofDevice (d : Device) (g : Granularity) : (ofDevice d g).Recalls g [] [] where
  granularity := rfl
  phase := by simp [ofDevice]
  keys := by simp [ofDevice, Table.find?, Table.lookup]
  names := by simp [ofDevice, Table.find?, Table.lookup]
  contexts := by simp [ofDevice, Table.has, Table.find?, Table.lookup]

/-- A request that is neither a build nor an accepted registration, and changes no table. -/
theorem Recalls.keep (hw : w.Recalls g qs past) {q : Request} (hq : q ≠ .build)
    (hplanner : w'.planner = w.planner) (hphase : w'.phase = w.phase)
    (hkeys : w'.modelsByKey = w.modelsByKey) (hmodels : w'.models = w.models)
    (hcontexts : w'.contexts = w.contexts) : w'.Recalls g (qs ++ [q]) (past ++ []) where
  granularity := by rw [hplanner, hw.granularity]
  phase := by simp [hphase, hw.phase, hq.symm]
  keys := by simpa [hkeys] using hw.keys
  names := by simpa [hmodels] using hw.names
  contexts := by simpa [hcontexts] using hw.contexts

/-- An accepted registration. Its key is new, and its name is either new or of this model. -/
theorem Recalls.enlisted (hw : w.Recalls g qs past) {q : Requirements} (h : w.Accepts r q) :
    (w.enlisted r q).Recalls g (qs ++ [.register r.name r.model r.batchSize]) (past ++ [r]) := by
  obtain ⟨-, -, -, hkey, hsame⟩ := checkRegistration_eq_ok_iff.1 h.check
  refine ⟨hw.granularity, by simpa [Workspace.enlisted] using hw.phase, fun name m n => ?keys,
    fun name m => ?names, fun name => ?contexts⟩
  case keys =>
    simp only [Workspace.enlisted, Table.find?_insert, List.mem_append, List.mem_singleton]
    by_cases hk : (⟨name, n⟩ : Key) = ⟨r.name, r.batchSize⟩
    · -- The key was free, so this is all that is under it.
      obtain ⟨rfl, rfl⟩ := Key.mk.inj hk
      have hnew : ⟨r.name, m, r.batchSize⟩ ∉ past := fun hmem => by
        cases hkey.symm.trans ((hw.keys r.name m r.batchSize).2 hmem)
      rw [if_pos rfl]
      constructor
      · rintro ⟨⟩
        exact .inr rfl
      · rintro (hmem | hr)
        · exact absurd hmem hnew
        · exact congrArg (fun r => some r.model) hr.symm
    · rw [if_neg hk, hw.keys]
      refine ⟨.inl, fun hmem => hmem.resolve_right fun hr => hk ?_⟩
      rw [← hr]
  case names =>
    simp only [Workspace.enlisted, Table.find?_insert, List.mem_append, List.mem_singleton]
    by_cases hname : name = r.name
    · -- The name may have been registered before, but then it was to this model.
      subst hname
      rw [if_pos rfl]
      constructor
      · rintro ⟨⟩
        exact ⟨r.batchSize, .inr rfl⟩
      · rintro ⟨n, hmem | hr⟩
        · rw [hsame m ((hw.names r.name m).2 ⟨n, hmem⟩)]
        · exact congrArg (fun r => some r.model) hr.symm
    · rw [if_neg hname, hw.names]
      refine exists_congr fun n => ⟨.inl, fun hmem => hmem.resolve_right fun hr => hname ?_⟩
      rw [← hr]
  case contexts =>
    simp only [Workspace.enlisted, Table.has_supply, Bool.or_eq_true, hw.contexts, decide_eq_true_eq,
      List.mem_append, List.mem_singleton, or_and_right, exists_or, exists_eq_left,
      eq_comm (a := name)]

/-- A build closes registration, whatever it comes to, and leaves the tables as they are. -/
theorem Recalls.build (hw : w.Recalls g qs past) : w.build.2.Recalls g (qs ++ [.build]) (past ++ []) := by
  have h := (build_builds w).retains
  have hhas (name : String) : w.build.2.contexts.has name = w.contexts.has name := by
    have hcontexts := congrArg Option.isSome (h.contexts name)
    rwa [Option.isSome_map, Option.isSome_map] at hcontexts
  refine ⟨by rw [h.planner, hw.granularity], ?_, ?_, ?_, ?_⟩
  · simp [(build_builds w).phase_eq]
  · simpa [h.modelsByKey] using hw.keys
  · simpa [h.models] using hw.names
  · simpa [hhas] using hw.contexts

theorem Recalls.serve (hw : w.Recalls g qs past) (ls : Ledgers) (q : Request) :
    (w.serve ls q).2.2.Recalls g (qs ++ [q]) (past ++ w.acceptedBy ls q) := by
  cases q with
  | register name m batchSize =>
    have h := register_registers w ⟨name, m, batchSize⟩ (ls m.label)
    rw [Workspace.serve, acceptedBy]
    generalize w.register (ls m.label) name m batchSize = outcome at h ⊢
    obtain ⟨answer, l, w'⟩ := outcome
    dsimp only at h ⊢
    cases h with
    | refused _ => exact hw.keep (by simp) rfl rfl rfl rfl rfl
    | contextless _ _ _ => exact hw.keep (by simp) rfl rfl rfl rfl rfl
    | unmeasured _ _ _ => exact hw.keep (by simp) rfl rfl rfl rfl rfl
    | accepted h => exact hw.enlisted h
  | build => exact hw.build
  | launch e => exact hw.keep (by simp) rfl rfl rfl rfl rfl
  | synchronize =>
    rw [Workspace.serve, synchronize, Procedure.on_callDevice]
    exact hw.keep (by simp) rfl rfl rfl rfl rfl
  | device f => exact hw.keep (by simp) rfl rfl rfl rfl rfl
  | model label f => exact hw.keep (by simp) rfl rfl rfl rfl rfl

theorem Recalls.after (hw : w.Recalls g qs past) (ls : Ledgers) (qs' : List Request) :
    (w.after ls qs').2.Recalls g (qs ++ qs') (past ++ w.accepted ls qs') := by
  induction qs' generalizing w ls qs past with
  | nil => simpa [accepted, after_nil] using hw
  | cons q qs' ih =>
    have h := ih (hw.serve ls q) (w.serve ls q).2.1
    rw [List.append_assoc, List.append_assoc] at h
    exact h

/-! ## What a registration has to meet -/

/-- A condition on a registration. -/
structure Condition where
  Holds : Prop
  /-- How a registration ends that violates this condition, and none before it. -/
  Refusal : Abort → Prop

/-- The conditions that are looked at before the model is touched, in order. -/
def standingConditions (qs : List Request) (past : List Registration) (r : Registration) :
    List Condition :=
  [⟨.build ∉ qs, (· = .fatal (.registrationClosed r.name))⟩,
    ⟨1 ≤ r.batchSize, (· = .fatal (.zeroBatchSize r.name))⟩,
    ⟨r.batchSize ≤ r.model.reportedMaxBatchSize,
      (· = .fatal (.batchSizeExceeded r.name r.batchSize r.model.reportedMaxBatchSize))⟩,
    ⟨∀ r' ∈ past, (⟨r'.name, r'.batchSize⟩ : Key) ≠ ⟨r.name, r.batchSize⟩,
      (· = .fatal (.duplicateModel r.name r.batchSize))⟩,
    ⟨∀ r' ∈ past, r'.name = r.name → r'.model = r.model, (· = .fatal (.nameConflict r.name))⟩]

/-- The conditions that the model itself has to meet. -/
def modelConditions (g : Granularity) (alignment : Nat) (past : List Registration)
    (r : Registration) : List Condition :=
  [⟨(∃ r' ∈ past, r'.name = r.name) ∨ r.model.failsContext = false,
      (· = .fatal (.model r.name .noContext))⟩,
    ⟨r.model.Measurable g alignment, fun a => ∃ d : Defect, d.Overflow ∧ a = .defect d⟩]

/-- All conditions on `r`, in order, after the requests `qs`, of whose registrations `past` were
    accepted. -/
def conditions (g : Granularity) (alignment : Nat) (qs : List Request) (past : List Registration)
    (r : Registration) : List Condition :=
  standingConditions qs past r ++ modelConditions g alignment past r

/-- Some condition is violated, and the first such condition ends a registration with `a`. -/
inductive FirstViolated (a : Abort) : List Condition → Prop
  | here {c : Condition} {cs : List Condition} : ¬c.Holds → c.Refusal a → FirstViolated a (c :: cs)
  | later {c : Condition} {cs : List Condition} : c.Holds → FirstViolated a cs →
      FirstViolated a (c :: cs)

namespace FirstViolated

variable {a : Abort} {cs cs' : List Condition}

theorem not_forall (h : FirstViolated a cs) : ¬∀ c ∈ cs, c.Holds := by
  induction h with
  | here hc _ => exact fun hall => hc (hall _ List.mem_cons_self)
  | later _ _ ih => exact fun hall => ih fun c hc => hall c (List.mem_cons_of_mem _ hc)

theorem append_right (h : FirstViolated a cs) : FirstViolated a (cs ++ cs') := by
  induction h with
  | here hc ha => exact .here hc ha
  | later hc _ ih => exact .later hc ih

theorem append_left (hcs : ∀ c ∈ cs, c.Holds) (h : FirstViolated a cs') :
    FirstViolated a (cs ++ cs') := by
  induction cs with
  | nil => exact h
  | cons c cs ih =>
    obtain ⟨hc, hcs⟩ := List.forall_mem_cons.1 hcs
    exact .later hc (ih hcs)

end FirstViolated

namespace Recalls

variable {alignment : Nat} {a : Abort}

theorem has_key_iff (hw : w.Recalls g qs past) (r : Registration) :
    w.modelsByKey.has ⟨r.name, r.batchSize⟩ = true ↔
      ∃ r' ∈ past, (⟨r'.name, r'.batchSize⟩ : Key) = ⟨r.name, r.batchSize⟩ := by
  rw [Table.has, Option.isSome_iff_exists]
  constructor
  · rintro ⟨m, hm⟩
    exact ⟨_, (hw.keys _ _ _).1 hm, rfl⟩
  · rintro ⟨r', hmem, hkey⟩
    exact ⟨r'.model, hkey ▸ (hw.keys _ _ _).2 hmem⟩

theorem find?_name_iff (hw : w.Recalls g qs past) (r : Registration) :
    (∀ m, w.models.find? r.name = some m → m = r.model) ↔
      ∀ r' ∈ past, r'.name = r.name → r'.model = r.model := by
  constructor
  · intro h r' hmem hname
    exact h r'.model ((hw.names _ _).2 ⟨r'.batchSize, hname ▸ hmem⟩)
  · intro h m hm
    obtain ⟨n, hmem⟩ := (hw.names _ _).1 hm
    exact h _ hmem rfl

theorem context_iff (hw : w.Recalls g qs past) (r : Registration) :
    (w.opens r = true → r.model.failsContext = false) ↔
      (∃ r' ∈ past, r'.name = r.name) ∨ r.model.failsContext = false := by
  rw [opens, Bool.not_eq_true', ← hw.contexts, imp_iff_not_or, Bool.not_eq_false]

/-- These are all the conditions that the tables are asked for. -/
theorem checkRegistration_iff (hw : w.Recalls g qs past) :
    w.checkRegistration r.name r.model r.batchSize = .ok () ↔
      ∀ c ∈ standingConditions qs past r, c.Holds := by
  have hkey : w.modelsByKey.find? ⟨r.name, r.batchSize⟩ = none ↔
      ∀ r' ∈ past, (⟨r'.name, r'.batchSize⟩ : Key) ≠ ⟨r.name, r.batchSize⟩ := by
    rw [← Option.not_isSome_iff_eq_none]
    exact (not_congr (hw.has_key_iff r)).trans (by simp only [not_exists, not_and, ne_eq])
  rw [checkRegistration_eq_ok_iff, hw.phase, hkey, hw.find?_name_iff]
  simp [standingConditions, Nat.one_le_iff_ne_zero]

theorem checkRegistration_violates (hw : w.Recalls g qs past) {e : FatalError}
    (h : w.checkRegistration r.name r.model r.batchSize = .error e) :
    FirstViolated (.fatal e) (standingConditions qs past r) := by
  -- One check after the other: it ends the registration, or its condition holds.
  rw [checkRegistration] at h
  split at h
  · next hclosed =>
    cases h
    exact .here (mt hw.phase.2 hclosed) rfl
  next hphase =>
  refine .later (hw.phase.1 (not_not.1 hphase)) ?_
  split at h
  · next hzero =>
    cases h
    exact .here (fun hpos => Nat.one_le_iff_ne_zero.1 hpos hzero) rfl
  next hpos =>
  refine .later (Nat.one_le_iff_ne_zero.2 hpos) ?_
  split at h
  · next hexceeds =>
    cases h
    exact .here (Nat.not_le.2 hexceeds) rfl
  next hmax =>
  refine .later (Nat.not_lt.1 hmax) ?_
  split at h
  · next htaken =>
    cases h
    obtain ⟨r', hmem, hkey⟩ := (hw.has_key_iff r).1 htaken
    exact .here (fun hfree => hfree r' hmem hkey) rfl
  next hfree =>
  refine .later (fun r' hmem hkey => hfree ((hw.has_key_iff r).2 ⟨r', hmem, hkey⟩)) ?_
  split at h
  · next m hm =>
    split at h
    · cases h
    · next hother =>
      cases h
      exact .here (fun hsame => hother ((hw.find?_name_iff r).2 hsame m hm)) rfl
  · cases h

/-- How a registration ends, in each of the ways in which it can go. -/
theorem registers (hw : w.Recalls g qs past) (hg : g.validate = .ok ()) {l l' : Ledger}
    {answer : Except Abort Unit} (h : Registers w r l answer l' w') :
    (answer = .ok () → ∀ c ∈ conditions g w.device.alignment.bytes qs past r, c.Holds) ∧
      ∀ a, answer = .error a →
        FirstViolated a (conditions g w.device.alignment.bytes qs past r) := by
  have hmeasured : (∃ q, w.planner.requirements r.model w.device.alignment.bytes = .ok q) ↔
      r.model.Measurable g w.device.alignment.bytes := by
    rw [Planner.exists_requirements_iff (hw.granularity ▸ hg), hw.granularity]
  cases h with
  | refused hcheck =>
    refine ⟨nofun, ?_⟩
    rintro _ ⟨⟩
    exact (hw.checkRegistration_violates hcheck).append_right
  | contextless hcheck hopens hfails =>
    refine ⟨nofun, ?_⟩
    rintro _ ⟨⟩
    refine .append_left (hw.checkRegistration_iff.1 hcheck) (.here ?_ rfl)
    exact fun h => Bool.false_ne_true (((hw.context_iff r).2 h hopens).symm.trans hfails)
  | @unmeasured d hcheck hcontext hd =>
    refine ⟨nofun, ?_⟩
    rintro _ ⟨⟩
    refine .append_left (hw.checkRegistration_iff.1 hcheck) (.later ?_ (.here ?_ ⟨d, ?_, rfl⟩))
    · exact (hw.context_iff r).1 hcontext
    · intro hmeasurable
      obtain ⟨q, hq⟩ := hmeasured.2 hmeasurable
      cases hq.symm.trans hd
    · exact Planner.requirements_overflow (hw.granularity ▸ hg) _ _ d hd
  | @accepted q h =>
    refine ⟨fun _ => List.forall_mem_append.2 ⟨hw.checkRegistration_iff.1 h.check, ?_⟩, nofun⟩
    simp only [modelConditions, List.forall_mem_cons]
    exact ⟨(hw.context_iff r).1 h.context, hmeasured.1 ⟨q, h.measured⟩, nofun⟩

end Recalls

/-- Whatever was asked of a workspace since it was created, a registration is accepted exactly if it
    meets all conditions, and otherwise ends by the first that it violates. -/
theorem registration_follows_history {d : Device} {g : Granularity} {w : Workspace}
    (hw : Workspace.create d g = .ok w) (ls : Ledgers) (qs : List Request) (r : Registration)
    (l : Ledger) :
    (((w.after ls qs).2.register l r.name r.model r.batchSize).1 = .ok () ↔
      ∀ c ∈ conditions g (w.after ls qs).2.device.alignment.bytes qs (w.accepted ls qs) r,
        c.Holds) ∧
    ∀ a, ((w.after ls qs).2.register l r.name r.model r.batchSize).1 = .error a →
      FirstViolated a
        (conditions g (w.after ls qs).2.device.alignment.bytes qs (w.accepted ls qs) r) := by
  obtain ⟨_, hg, h⟩ := bind_eq_ok_iff.1 hw
  cases h
  obtain ⟨haccepted, hrejected⟩ :=
    ((recalls_ofDevice d g).after ls qs).registers hg (register_registers _ r l)
  refine ⟨⟨haccepted, fun hall => ?_⟩, hrejected⟩
  -- There is no other way to be turned down than by violating a condition.
  cases hanswer : (((ofDevice d g).after ls qs).2.register l r.name r.model r.batchSize).1 with
  | ok _ => rfl
  | error a => exact absurd hall (hrejected a hanswer).not_forall

/-- Another model object of the same sizes as the sample. -/
def twin : Model := { Model.sample with label := "t" }

/-- The model of a name may be registered under it again, but not its twin. -/
theorem registration_follows_history_twin :
    let w := ofDevice .sample {}
    let qs : List Request :=
      [.register "a" .sample 4, .register "a" .sample 4, .synchronize, .register "b" twin 2]
    let past : List Registration := [⟨"a", .sample, 4⟩, ⟨"b", twin, 2⟩]
    w.accepted (fun _ => {}) qs = past ∧
      (∀ c ∈ conditions {} 256 qs past ⟨"a", .sample, 1⟩, c.Holds) ∧
      FirstViolated (.fatal (.nameConflict "a")) (conditions {} 256 qs past ⟨"a", twin, 1⟩) := by
  intro w qs past
  have hw : Workspace.create .sample {} = .ok w := rfl
  have hpast : w.accepted (fun _ => {}) qs = past := by decide +kernel
  have halignment : (w.after (fun _ => {}) qs).2.device.alignment.bytes = 256 := by decide +kernel
  obtain ⟨hsame, -⟩ :=
    registration_follows_history hw (fun _ => {}) qs ⟨"a", .sample, 1⟩ {}
  obtain ⟨-, htwin⟩ := registration_follows_history hw (fun _ => {}) qs ⟨"a", twin, 1⟩ {}
  rw [hpast, halignment] at hsame htwin
  exact ⟨hpast, hsame.1 (by decide +kernel), htwin _ (by decide +kernel)⟩

end Workspace

end GraphReplay
