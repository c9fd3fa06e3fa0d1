import GraphReplay.Proofs.Journal
import GraphReplay.Proofs.Registry
import GraphReplay.Proofs.Rejection
import Mathlib.Data.List.Perm.Basic
import Mathlib.Data.String.Basic

/-!
# The order of registrations

If some registrations are accepted one after the other, they are accepted in any
other order too, and come to the same. The plan takes the largest need, the
tables are sorted, a name has one context however often it is registered, and
two registrations of a name have to be of one model. Only two things tell the
order: the journal, which is never read, and the name that a model object goes by
in the end, if it is registered under several.

* `registerAll`: registrations in turn;
* `Alike`: the same apart from the journal and from what models are called;
* `enlist_swap`: two registrations in either order;
* `registerAll_perm`: any order, by induction on the permutation;
* `registration_order`: what this means for a build.
-/

namespace GraphReplay

/-! ## Filling in -/

namespace Table

variable {κ α : Type} [DecidableEq κ] [LT κ] [DecidableLT κ]

/-- Put `a` under `k` if there is nothing. -/
def supply (t : Table κ α) (k : κ) (a : α) : Table κ α := if t.has k then t else t.insert k a

theorem has_insert (t : Table κ α) (k j : κ) (a : α) :
    (t.insert k a).has j = (t.has j || decide (j = k)) := by
  rw [has, find?_insert]
  by_cases hj : j = k <;> simp [has, hj]

theorem has_supply (t : Table κ α) (k j : κ) (a : α) :
    (t.supply k a).has j = (t.has j || decide (j = k)) := by
  rw [supply]
  by_cases hk : t.has k
  · by_cases hj : j = k <;> simp [hk, hj]
  · rw [if_neg hk, has_insert]

/-- What is filled in does not depend on the order, unless it is under one key. -/
theorem supply_comm [IsStrictTotalOrder κ (· < ·)] (t : Table κ α) {k j : κ} {a b : α}
    (h : k = j → a = b) : (t.supply k a).supply j b = (t.supply j b).supply k a := by
  have hinsert := t.insert_comm h
  by_cases hkj : k = j
  · obtain rfl := hkj
    rw [h rfl]
  · have hjk : j ≠ k := Ne.symm hkj
    by_cases hk : t.has k <;> by_cases hj : t.has j <;>
      simp [supply, has_insert, hk, hj, hkj, hjk, hinsert]

end Table

theorem Planner.fold_comm (p : Planner) (q r : Requirements) :
    (p.fold q).fold r = (p.fold r).fold q := by
  simp only [fold, Plan.fold, Nat.max_right_comm]

namespace Ledger

/-- What a ledger says, apart from the name of the model. -/
def nameless (l : Ledger) : Ledger := { l with displayName := "" }

/-- The ledger after `n` contexts were created. -/
def addContexts (l : Ledger) (n : Nat) : Ledger :=
  { l with contextsCreated := l.contextsCreated + n, contextsLive := l.contextsLive + n }

theorem eq_of_nameless {l l' : Ledger} (h : l.nameless = l'.nameless)
    (hname : l.displayName = l'.displayName) : l = l' := by
  obtain ⟨name, created, live⟩ := l
  obtain ⟨name', created', live'⟩ := l'
  cases h
  cases hname
  rfl

theorem addContexts_addContexts (l : Ledger) (n n' : Nat) :
    (l.addContexts n).addContexts n' = l.addContexts (n + n') := by
  simp only [addContexts, Nat.add_assoc]

end Ledger

/-- A registration to be made. -/
structure Registration where
  name : String
  model : Model
  batchSize : Nat
  deriving DecidableEq, Repr

namespace Workspace

variable {w w' : Workspace} {ls : Ledgers} {a b r : Registration} {rs rs' : List Registration}
variable {s s' t : Ledgers × Workspace}

/-! ## Registrations in turn -/

/-- Make one registration, if it is accepted. -/
def enlist (s : Ledgers × Workspace) (r : Registration) : Except Abort (Ledgers × Workspace) :=
  let (answer, l, w) := s.2.register (s.1 r.model.label) r.name r.model r.batchSize
  answer.map fun _ => (Function.update s.1 r.model.label l, w)

/-- Make some registrations in turn, if all are accepted. -/
def registerAll (s : Ledgers × Workspace) (rs : List Registration) :
    Except Abort (Ledgers × Workspace) :=
  rs.foldlM enlist s

/-- Whether `r` has a context created. -/
def opens (w : Workspace) (r : Registration) : Bool := !w.contexts.has r.name

/-- The ledger of the model of `r` after its registration. -/
def ledgerAfter (w : Workspace) (r : Registration) (l : Ledger) : Ledger :=
  (l.rename r.name).addContexts (w.opens r).toNat

/-- The workspace with `r` written down, whose model needs `q`. -/
def enlisted (w : Workspace) (r : Registration) (q : Requirements) : Workspace :=
  { w with
    planner := w.planner.fold q
    journal := w.journal ++ registrationNotes r.name r.batchSize q
    contexts := w.contexts.supply r.name (r.model.contextFor r.name)
    models := w.models.insert r.name r.model
    modelsByKey := w.modelsByKey.insert ⟨r.name, r.batchSize⟩ r.model }

/-- What it takes for `r` to be accepted: `q` is what its model needs. -/
structure Accepts (w : Workspace) (r : Registration) (q : Requirements) : Prop where
  check : w.checkRegistration r.name r.model r.batchSize = .ok ()
  context : w.opens r = true → r.model.failsContext = false
  measured : w.planner.requirements r.model w.device.alignment.bytes = .ok q

theorem openContext_eq (w : Workspace) (r : Registration) (l : Ledger) :
    w.openContext r.name r.model l =
      if w.opens r = true ∧ r.model.failsContext = true then .error .noContext
      else .ok (if w.contexts.has r.name then none else some (r.model.contextFor r.name),
        w.ledgerAfter r l) := by
  rw [openContext, ledgerAfter, opens]
  by_cases hc : w.contexts.has r.name
  · simp [hc, Ledger.addContexts]
  · by_cases hf : r.model.failsContext <;>
      simp [hc, hf, Model.createContext, Ledger.addContexts, Ledger.rename, Model.contextFor, Except.map]

theorem enroll_eq (w : Workspace) (r : Registration) (q : Requirements) :
    w.enroll r.name r.model r.batchSize
      (if w.contexts.has r.name then none else some (r.model.contextFor r.name)) q =
        w.enlisted r q := by
  rw [enlisted, Table.supply]
  by_cases hc : w.contexts.has r.name
  · rw [if_pos hc, if_pos hc]
    rfl
  · rw [if_neg hc, if_neg hc]
    rfl

/-- When a registration is accepted, and what it comes to. -/
theorem enlist_eq_ok_iff :
    enlist (ls, w) r = .ok t ↔ ∃ q, w.Accepts r q ∧
      (Function.update ls r.model.label (w.ledgerAfter r (ls r.model.label)), w.enlisted r q) = t := by
  constructor
  · intro h
    rw [enlist, register] at h
    cases hcheck : w.checkRegistration r.name r.model r.batchSize with
    | error e => simp [hcheck, Except.map] at h
    | ok _ =>
      by_cases hf : w.opens r = true ∧ r.model.failsContext = true
      · simp [hcheck, openContext_eq, hf, Except.map] at h
      · cases hq : w.planner.requirements r.model w.device.alignment.bytes with
        | error d => simp [hcheck, openContext_eq, hf, hq, Except.map] at h
        | ok q =>
          simp only [hcheck, openContext_eq, if_neg hf, hq, Except.map, enroll_eq,
            Except.ok.injEq] at h
          refine ⟨q, ⟨hcheck, fun hopens => ?_, hq⟩, h⟩
          exact Bool.eq_false_iff.2 fun hfails => hf ⟨hopens, hfails⟩
  · rintro ⟨q, ⟨hcheck, hcontext, hq⟩, rfl⟩
    have hf : ¬(w.opens r = true ∧ r.model.failsContext = true) := by
      rintro ⟨hopens, hfails⟩
      cases (hcontext hopens).symm.trans hfails
    rw [enlist, register]
    simp only [hcheck, openContext_eq, if_neg hf, hq, Except.map, enroll_eq]

/-! ## Two registrations -/

/-- Registrations that do not get in each other's way. -/
structure Compatible (a b : Registration) : Prop where
  keys : (⟨a.name, a.batchSize⟩ : Key) ≠ ⟨b.name, b.batchSize⟩
  models : a.name = b.name → a.model = b.model

theorem Compatible.symm (h : Compatible a b) : Compatible b a :=
  ⟨h.keys.symm, fun hname => (h.models hname.symm).symm⟩

variable {q q' : Requirements}

/-- A name that is registered has its context. -/
theorem opens_enlisted (w : Workspace) (a b : Registration) (q : Requirements) :
    (w.enlisted a q).opens b = (w.opens b && decide (b.name ≠ a.name)) := by
  rw [opens, enlisted, Table.has_supply, opens]
  by_cases hname : b.name = a.name <;> simp [hname]

theorem Accepts.compatible (hb : (w.enlisted a q).Accepts b q') : Compatible a b := by
  obtain ⟨-, -, -, hkey, hmodels⟩ := checkRegistration_eq_ok_iff.1 hb.check
  simp only [enlisted, Table.find?_insert] at hkey hmodels
  refine ⟨fun hsame => ?_, fun hname => hmodels a.model (if_pos hname.symm)⟩
  rw [if_pos hsame.symm] at hkey
  cases hkey

/-- What is accepted after another registration would have been accepted before it. -/
theorem Accepts.of_enlisted (ha : w.Accepts a q) (hb : (w.enlisted a q).Accepts b q') :
    w.Accepts b q' := by
  have hcompat := hb.compatible
  obtain ⟨hcheck, hcontext, hq⟩ := hb
  obtain ⟨hp, hn, hmax, hkey, hmodels⟩ := checkRegistration_eq_ok_iff.1 hcheck
  simp only [enlisted, Table.find?_insert, if_neg hcompat.keys.symm] at hkey hmodels
  by_cases hname : b.name = a.name
  · -- What is known of the name was looked at for the other registration already.
    have hmodel := hcompat.models hname.symm
    obtain ⟨-, -, -, -, hsame⟩ := checkRegistration_eq_ok_iff.1 ha.check
    refine ⟨checkRegistration_eq_ok_iff.2 ⟨hp, hn, hmax, hkey, fun m hm => ?_⟩, fun hopens => ?_, hq⟩
    · rw [hsame m (hname ▸ hm), hmodel]
    · rw [← hmodel]
      exact ha.context (by rwa [opens, hname] at hopens)
  · refine ⟨checkRegistration_eq_ok_iff.2 ⟨hp, hn, hmax, hkey, fun m hm => ?_⟩, fun hopens => ?_, hq⟩
    · exact hmodels m ((if_neg hname).trans hm)
    · exact hcontext (by simp [opens_enlisted, hopens, hname])

/-- What was accepted before a registration that is compatible is accepted after it. -/
theorem Accepts.enlisted (hb : w.Accepts b q') (h : Compatible a b) (q : Requirements) :
    (w.enlisted a q).Accepts b q' := by
  obtain ⟨hp, hn, hmax, hkey, hmodels⟩ := checkRegistration_eq_ok_iff.1 hb.check
  have hkey' : (w.enlisted a q).modelsByKey.find? ⟨b.name, b.batchSize⟩ = none :=
    (Table.find?_insert_of_ne _ _ h.keys.symm).trans hkey
  refine ⟨checkRegistration_eq_ok_iff.2 ⟨hp, hn, hmax, hkey', fun m hm => ?_⟩, fun hopens => ?_,
    hb.measured⟩
  · simp only [Workspace.enlisted, Table.find?_insert] at hm
    split at hm
    · next hname =>
      cases hm
      exact h.models hname.symm
    · exact hmodels m hm
  · rw [opens_enlisted, Bool.and_eq_true] at hopens
    exact hb.context hopens.1

theorem silent_enlisted_comm (h : Compatible a b) (w : Workspace) (q q' : Requirements) :
    ((w.enlisted a q).enlisted b q').silent = ((w.enlisted b q').enlisted a q).silent := by
  have hcontexts := w.contexts.supply_comm (k := a.name) (j := b.name)
    (a := a.model.contextFor a.name) (b := b.model.contextFor b.name) fun hname => by
      rw [hname, h.models hname]
  have hmodels := w.models.insert_comm h.models
  have hkeys := w.modelsByKey.insert_comm (a := a.model) (b := b.model) fun hk => absurd hk h.keys
  simp only [silent, enlisted, w.planner.fold_comm q q', hcontexts, hmodels, hkeys]

/-- How many contexts `r` has created of the model with the label `label`. -/
def openings (w : Workspace) (r : Registration) (label : String) : Nat :=
  if label = r.model.label then (w.opens r).toNat else 0

theorem nameless_update (w : Workspace) (ls : Ledgers) (r : Registration) (label : String) :
    (Function.update ls r.model.label (w.ledgerAfter r (ls r.model.label)) label).nameless =
      (ls label).nameless.addContexts (w.openings r label) := by
  rw [Function.update_apply, openings]
  split
  · next hlabel =>
    rw [hlabel]
    rfl
  · rfl

/-- Two registrations have as many contexts created of each model in either order. -/
theorem openings_comm (h : Compatible a b) (w : Workspace) (q q' : Requirements) (label : String) :
    w.openings a label + (w.enlisted a q).openings b label =
      w.openings b label + (w.enlisted b q').openings a label := by
  simp only [openings, opens_enlisted]
  by_cases hname : a.name = b.name
  · simp [h.models hname, hname, opens]
  · simp [hname, Ne.symm hname, Nat.add_comm]

/-! ## Any order -/

/-- The same, apart from the journal and from what models are called. -/
structure Alike (s s' : Ledgers × Workspace) : Prop where
  workspace : s.2.silent = s'.2.silent
  ledgers : ∀ label, (s.1 label).nameless = (s'.1 label).nameless

theorem Alike.refl (s : Ledgers × Workspace) : Alike s s := ⟨rfl, fun _ => rfl⟩

theorem Alike.trans {s'' : Ledgers × Workspace} (h : Alike s s') (h' : Alike s' s'') : Alike s s'' :=
  ⟨h.workspace.trans h'.workspace, fun label => (h.ledgers label).trans (h'.ledgers label)⟩

/-- Neither makes a difference to a registration. -/
theorem Alike.enlist (h : Alike s s') (hs : enlist s r = .ok t) :
    ∃ t', Workspace.enlist s' r = .ok t' ∧ Alike t t' := by
  obtain ⟨ls, w⟩ := s
  obtain ⟨ls', w'⟩ := s'
  obtain ⟨j, rfl⟩ := exists_journal h.workspace
  obtain ⟨q, hq, rfl⟩ := enlist_eq_ok_iff.1 hs
  refine ⟨_, enlist_eq_ok_iff.2 ⟨q, ⟨hq.check, hq.context, hq.measured⟩, rfl⟩, rfl, fun label => ?_⟩
  have hledger : (ls label).nameless = (ls' label).nameless := h.ledgers label
  rw [nameless_update, nameless_update, hledger]
  rfl

theorem registerAll_cons : registerAll s (r :: rs) = .ok t ↔
    ∃ u, enlist s r = .ok u ∧ registerAll u rs = .ok t := by
  rw [registerAll, List.foldlM_cons, Failure.bind_eq_ok_iff]
  rfl

theorem Alike.registerAll (h : Alike s s') (hs : registerAll s rs = .ok t) :
    ∃ t', Workspace.registerAll s' rs = .ok t' ∧ Alike t t' := by
  induction rs generalizing s s' with
  | nil =>
    cases hs
    exact ⟨s', rfl, h⟩
  | cons r rs ih =>
    obtain ⟨u, hu, hs⟩ := registerAll_cons.1 hs
    obtain ⟨u', hu', halike⟩ := h.enlist hu
    obtain ⟨t', ht', halike'⟩ := ih halike hs
    exact ⟨t', registerAll_cons.2 ⟨u', hu', ht'⟩, halike'⟩

/-- Two registrations in turn can be made the other way round. -/
theorem enlist_swap {u : Ledgers × Workspace} (ha : enlist s a = .ok t) (hb : enlist t b = .ok u) :
    ∃ t' u', enlist s b = .ok t' ∧ enlist t' a = .ok u' ∧ Alike u u' := by
  obtain ⟨ls, w⟩ := s
  obtain ⟨q, hqa, rfl⟩ := enlist_eq_ok_iff.1 ha
  obtain ⟨q', hqb, rfl⟩ := enlist_eq_ok_iff.1 hb
  have hcompat := hqb.compatible
  have hqb' := hqa.of_enlisted hqb
  have hqa' := hqa.enlisted hcompat.symm q'
  refine ⟨_, _, enlist_eq_ok_iff.2 ⟨q', hqb', rfl⟩, enlist_eq_ok_iff.2 ⟨q, hqa', rfl⟩, ?_, fun label => ?_⟩
  · exact silent_enlisted_comm hcompat w q q'
  · simp only [nameless_update, Ledger.addContexts_addContexts]
    rw [openings_comm hcompat w q q' label]

/-- Registrations that are accepted in turn are accepted in any order, by induction on how the one
    order comes from the other by swaps. -/
theorem registerAll_perm (hperm : rs.Perm rs') (hs : registerAll s rs = .ok t) :
    ∃ t', registerAll s rs' = .ok t' ∧ Alike t t' := by
  -- A swap leads to workspaces that are alike only, and the rest has to carry that on.
  induction hperm generalizing s t with
  | nil => exact ⟨t, hs, .refl t⟩
  | cons r _ ih =>
    obtain ⟨u, hu, hs⟩ := registerAll_cons.1 hs
    obtain ⟨t', ht', halike⟩ := ih hs
    exact ⟨t', registerAll_cons.2 ⟨u, hu, ht'⟩, halike⟩
  | swap a b rs =>
    obtain ⟨u, hu, hs⟩ := registerAll_cons.1 hs
    obtain ⟨v, hv, hs⟩ := registerAll_cons.1 hs
    obtain ⟨u', v', hu', hv', halike⟩ := enlist_swap hu hv
    obtain ⟨t', ht', halike'⟩ := halike.registerAll hs
    exact ⟨t', registerAll_cons.2 ⟨u', hu', registerAll_cons.2 ⟨v', hv', ht'⟩⟩, halike'⟩
  | trans _ _ ih ih' =>
    obtain ⟨t', ht', halike⟩ := ih hs
    obtain ⟨t'', ht'', halike'⟩ := ih' ht'
    exact ⟨t'', ht'', halike.trans halike'⟩

/-! ## What models are called -/

theorem displayName_enlist (hs : enlist s r = .ok t) (label : String) :
    (t.1 label).displayName = if label = r.model.label then r.name else (s.1 label).displayName := by
  obtain ⟨ls, w⟩ := s
  obtain ⟨q, -, rfl⟩ := enlist_eq_ok_iff.1 hs
  simp only [Function.update_apply]
  split <;> rfl

/-- A model goes by the last name that it was registered under. -/
theorem displayName_registerAll (hs : registerAll s rs = .ok t) (label : String) :
    (t.1 label).displayName =
      rs.foldl (fun name r => if label = r.model.label then r.name else name) (s.1 label).displayName := by
  induction rs generalizing s with
  | nil =>
    cases hs
    rfl
  | cons r rs ih =>
    obtain ⟨u, hu, hs⟩ := registerAll_cons.1 hs
    rw [ih hs, List.foldl_cons, displayName_enlist hu]

/-- A model that is registered under one name only goes by it in any order. -/
theorem displayName_eq_of_perm (hperm : rs.Perm rs') {t' : Ledgers × Workspace}
    (hs : registerAll s rs = .ok t) (hs' : registerAll s rs' = .ok t') {label : String}
    (hname : ∀ r ∈ rs, ∀ r' ∈ rs, r.model.label = label → r'.model.label = label → r.name = r'.name) :
    (t'.1 label).displayName = (t.1 label).displayName := by
  rw [displayName_registerAll hs, displayName_registerAll hs']
  refine (hperm.foldl_eq' (fun r hr r' hr' name => ?_) _).symm
  split
  · split
    · exact hname r' hr' r hr (Eq.symm ‹_›) (Eq.symm ‹_›)
    · rfl
  · rfl

/-- The order of registrations makes no difference. If some are accepted in turn, by a workspace that
    may be new or not, they are accepted by it in any other order. The plan is the same then, and so
    are the keys, the models and the device; and a build comes to the same, with the same calls to
    the device, the same tensor addresses and the same executors. On the side of the models, as many
    contexts were created of each, and only one that was registered under several names may go by
    another name. -/
theorem registration_order (w : Workspace) (ls : Ledgers) (hperm : rs.Perm rs')
    {ls₁ : Ledgers} {w₁ : Workspace} (h : registerAll (ls, w) rs = .ok (ls₁, w₁)) :
    ∃ ls₂ w₂, registerAll (ls, w) rs' = .ok (ls₂, w₂) ∧
      w₂.plan = w₁.plan ∧ w₂.keys = w₁.keys ∧
      (∀ name, w₂.models.find? name = w₁.models.find? name) ∧ w₂.device = w₁.device ∧
      w₂.build.1 = w₁.build.1 ∧ w₂.build.2.device = w₁.build.2.device ∧
      (∀ name, w₂.build.2.addresses name = w₁.build.2.addresses name) ∧
      (∀ key, w₂.build.2.executor key = w₁.build.2.executor key) ∧
      (∀ label, (ls₂ label).nameless = (ls₁ label).nameless) ∧
      ∀ label, (∀ r ∈ rs, ∀ r' ∈ rs, r.model.label = label → r'.model.label = label →
        r.name = r'.name) → ls₂ label = ls₁ label := by
  obtain ⟨⟨ls₂, w₂⟩, h', halike⟩ := registerAll_perm hperm h
  obtain ⟨hanswer, hbuilt⟩ := build_congr halike.workspace
  have hledgers (label : String) : (ls₂ label).nameless = (ls₁ label).nameless :=
    (halike.ledgers label).symm
  have hnamed (label : String) (hname : ∀ r ∈ rs, ∀ r' ∈ rs, r.model.label = label →
      r'.model.label = label → r.name = r'.name) : ls₂ label = ls₁ label :=
    Ledger.eq_of_nameless (hledgers label) (displayName_eq_of_perm hperm h h' hname)
  obtain ⟨j, rfl⟩ := exists_journal halike.workspace
  obtain ⟨j', hj'⟩ := exists_journal hbuilt
  refine ⟨ls₂, _, h', rfl, rfl, fun _ => rfl, rfl, hanswer.symm, ?_, fun name => ?_, fun key => ?_,
    hledgers, hnamed⟩
  · rw [hj']
  · rw [hj', addresses, addresses]
  · rw [hj', executor, executor]

/-- This model goes by two names, and is called by the one that came last. -/
theorem sample_registration_order :
    ∃ ls₁ w₁ ls₂ w₂,
      registerAll (fun _ => {}, ofDevice .sample {})
        [⟨"a", .sample, 4⟩, ⟨"b", .sample, 2⟩, ⟨"a", .sample, 1⟩] = .ok (ls₁, w₁) ∧
      registerAll (fun _ => {}, ofDevice .sample {})
        [⟨"a", .sample, 1⟩, ⟨"a", .sample, 4⟩, ⟨"b", .sample, 2⟩] = .ok (ls₂, w₂) ∧
      w₂.plan = w₁.plan ∧ w₂.keys = w₁.keys ∧ w₂.build.1 = w₁.build.1 ∧
      w₂.build.2.device = w₁.build.2.device ∧
      (ls₁ "m").displayName = "a" ∧ (ls₂ "m").displayName = "b" := by
  have hperm : [⟨"a", .sample, 4⟩, ⟨"b", .sample, 2⟩, ⟨"a", .sample, 1⟩].Perm
      [(⟨"a", .sample, 1⟩ : Registration), ⟨"a", .sample, 4⟩, ⟨"b", .sample, 2⟩] := by decide
  have hok : (registerAll (fun _ => {}, ofDevice .sample {})
      [⟨"a", .sample, 4⟩, ⟨"b", .sample, 2⟩, ⟨"a", .sample, 1⟩]).isOk = true := by decide +kernel
  cases h : registerAll (fun _ => {}, ofDevice .sample {})
      [⟨"a", .sample, 4⟩, ⟨"b", .sample, 2⟩, ⟨"a", .sample, 1⟩] with
  | error x =>
    rw [h] at hok
    cases hok
  | ok t =>
    obtain ⟨ls₁, w₁⟩ := t
    obtain ⟨ls₂, w₂, h', hplan, hkeys, -, -, hanswer, hdevice, -⟩ :=
      registration_order (ofDevice .sample {}) (fun _ => {}) hperm h
    exact ⟨ls₁, w₁, ls₂, w₂, rfl, h', hplan, hkeys, hanswer, hdevice,
      displayName_registerAll h "m", displayName_registerAll h' "m"⟩

end Workspace

end GraphReplay
