import GraphReplay.Proofs.Pairing

/-!
# Contexts are accounted for

A model object counts the contexts that were created of it and those that are live.
Several workspaces may have it registered, each under several names, others may stand
in front of it, and whoever has it can create contexts of it too. Whatever is done, the
count is right: there is one live context for each name that is registered to the model
in a workspace that exists, and one for each that was created otherwise and not given
back. So no context is released twice, and none is forgotten.

* `World`: workspaces, contexts and ledgers; `Act`: what can be done with them. Models
  that stand in front of others have labels of their own here, and `core` gives the label
  of the object behind a model, which the ledger is kept under;
* `releaseAll`: contexts that are released in turn. If all of them are counted, each
  finds one that is live (`live_of_releaseAll`);
* `Balanced`: the count is right. Every act keeps this up (`Balanced.act`), so every
  run does (`Balanced.run`);
* `context_accounting`: all of this together.
-/

namespace GraphReplay

open Failure

/-! ## Everything that has contexts -/

/-- The workspaces that exist, the contexts that were created without them, and the ledgers of all
    model objects. -/
structure World where
  workspaces : List Workspace := []
  contexts : List Context := []
  ledgers : Ledgers := fun _ => {}

namespace World

/-- What can be done. Workspaces and contexts are told by their places in the list. -/
inductive Act
  | create (d : Device) (g : Granularity)
  | register (i : Nat) (r : Registration)
  | build (i : Nat)
  | launch (i : Nat) (e : Executor)
  | synchronize (i : Nat)
  /-- Others use the device of a workspace. -/
  | device (i : Nat) (f : Device → Device)
  | drop (i : Nat) (unwinding : Bool) (order : List (Key × Executor))
  | rename (label name : String)
  | newContext (m : Model)
  | setScratch (i : Nat) (base : Address)
  | dropContext (i : Nat)

variable (core : Model → String)

/-- Release a context, in the ledger of the object behind its model. -/
def release (ls : Ledgers) (c : Context) : Ledgers :=
  Function.update ls (core c.model) (ls (core c.model)).release

/-- Release some contexts in turn. -/
def releaseAll (ls : Ledgers) (cs : List Context) : Ledgers := cs.foldl (release core) ls

/-- The contexts that an act releases. -/
def released (s : World) : Act → List Context
  | .drop i unwinding order =>
    (s.workspaces[i]?.map fun w => (w.dropInOrder unwinding order).2.contexts).getD []
  | .dropContext i => s.contexts[i]?.toList
  | _ => []

/-- Change a workspace. -/
def change (s : World) (i : Nat) (f : Workspace → Workspace) : World :=
  { s with workspaces := s.workspaces.modify i f }

/-- The world after an act. -/
def act (s : World) : Act → World
  | .create d g =>
    match Workspace.create d g with
    | .ok w => { s with workspaces := s.workspaces ++ [w] }
    | .error _ => s
  | .register i r =>
    match s.workspaces[i]? with
    | some w =>
      let (_, l, w') := w.register (s.ledgers (core r.model)) r.name r.model r.batchSize
      { s with
        workspaces := s.workspaces.set i w'
        ledgers := Function.update s.ledgers (core r.model) l }
    | none => s
  | .build i => s.change i (·.build.2)
  | .launch i e => s.change i (fun w => (w.launch e).2)
  | .synchronize i => s.change i (·.synchronize.2)
  | .device i f => s.change i (fun w => { w with device := f w.device })
  | .drop i unwinding order =>
    { s with
      workspaces := s.workspaces.eraseIdx i
      ledgers := releaseAll core s.ledgers (s.released (.drop i unwinding order)) }
  | .rename label name =>
    { s with ledgers := Function.update s.ledgers label ((s.ledgers label).rename name) }
  | .newContext m =>
    match m.createContext (s.ledgers (core m)) with
    | .ok (c, l) =>
      { s with contexts := s.contexts ++ [c], ledgers := Function.update s.ledgers (core m) l }
    | .error _ => s
  | .setScratch i base => { s with contexts := s.contexts.modify i (·.setScratch base) }
  | .dropContext i =>
    { s with
      contexts := s.contexts.eraseIdx i
      ledgers := releaseAll core s.ledgers (s.released (.dropContext i)) }

/-- The world after some acts in turn. -/
def run (s : World) (acts : List Act) : World := acts.foldl (act core) s

/-- How many names are registered to an object, over all workspaces. -/
def registered (s : World) (label : String) : Nat :=
  (s.workspaces.map fun w => (w.namesOf core label).length).sum

/-- How many contexts of an object were created without a workspace and not given back. -/
def direct (s : World) (label : String) : Nat := s.contexts.countP (core ·.model = label)

/-- The count of every object is right. -/
structure Balanced (s : World) : Prop where
  paired : ∀ w ∈ s.workspaces, w.Paired
  live : ∀ label, (s.ledgers label).contextsLive = s.registered core label + s.direct core label
  created : ∀ label, (s.ledgers label).contextsLive ≤ (s.ledgers label).contextsCreated

variable {core} {s : World} {i : Nat} {w w' : Workspace} {cs : List Context} {ls : Ledgers}

/-! ### Releasing -/

theorem releaseAll_cons (ls : Ledgers) (c : Context) (cs : List Context) :
    releaseAll core ls (c :: cs) = releaseAll core (release core ls c) cs := rfl

theorem releaseAll_apply (ls : Ledgers) (cs : List Context) (label : String) :
    (releaseAll core ls cs label).contextsLive =
        (ls label).contextsLive - cs.countP (core ·.model = label) ∧
      (releaseAll core ls cs label).contextsCreated = (ls label).contextsCreated := by
  induction cs generalizing ls with
  | nil => exact ⟨rfl, rfl⟩
  | cons c cs ih =>
    obtain ⟨hlive, hcreated⟩ := ih (release core ls c)
    rw [releaseAll_cons, hlive, hcreated, List.countP_cons, release, Function.update_apply]
    by_cases hcore : core c.model = label
    · subst hcore
      simp [Ledger.release, Nat.sub_sub, Nat.add_comm]
    · simp [hcore, Ne.symm hcore]

/-- Contexts that are all counted can be released one by one: each finds one that is live. -/
theorem live_of_releaseAll (h : ∀ label, cs.countP (core ·.model = label) ≤ (ls label).contextsLive)
    {front rest : List Context} {c : Context} (hcs : cs = front ++ c :: rest) :
    0 < (releaseAll core ls front (core c.model)).contextsLive := by
  have hcount := h (core c.model)
  rw [hcs, List.countP_append, List.countP_cons_of_pos (by simp)] at hcount
  rw [(releaseAll_apply ls front _).1]
  omega

/-! ### One entry of a list -/

section Entries

variable {α β : Type} {l : List α} {a : α}

theorem sum_map_eraseIdx (h : l[i]? = some a) (f : α → Nat) :
    f a + ((l.eraseIdx i).map f).sum = (l.map f).sum := by
  obtain ⟨hi, rfl⟩ := List.getElem?_eq_some_iff.1 h
  exact ((List.getElem_cons_eraseIdx_perm hi).map f).sum_nat

theorem sum_map_set (h : l[i]? = some a) (b : α) (f : α → Nat) :
    ((l.set i b).map f).sum + f a = (l.map f).sum + f b := by
  obtain ⟨hi, -⟩ := List.getElem?_eq_some_iff.1 h
  have hset : ((l.set i b).map f).sum = f b + ((l.eraseIdx i).map f).sum :=
    ((List.set_perm_cons_eraseIdx hi b).map f).sum_nat
  have herase := sum_map_eraseIdx h f
  omega

theorem countP_eraseIdx (h : l[i]? = some a) (p : α → Bool) :
    (l.eraseIdx i).countP p + [a].countP p = l.countP p := by
  obtain ⟨hi, rfl⟩ := List.getElem?_eq_some_iff.1 h
  rw [← (List.getElem_cons_eraseIdx_perm hi).countP_eq p, Nat.add_comm, ← List.countP_append]
  rfl

theorem map_modify {f : α → α} {g : α → β} (h : ∀ a, g (f a) = g a) (l : List α) (i : Nat) :
    (l.modify i f).map g = l.map g := by
  induction l generalizing i with
  | nil => cases i <;> rfl
  | cons a l ih => cases i <;> simp [h, ih]

theorem forall_mem_modify {f : α → α} {P : α → Prop} (hf : ∀ a, P a → P (f a)) (hl : ∀ a ∈ l, P a)
    (i : Nat) : ∀ a ∈ l.modify i f, P a := by
  induction l generalizing i with
  | nil => cases i <;> exact hl
  | cons a l ih =>
    obtain ⟨ha, hl⟩ := List.forall_mem_cons.1 hl
    cases i with
    | zero => exact List.forall_mem_cons.2 ⟨hf a ha, hl⟩
    | succ i => exact List.forall_mem_cons.2 ⟨ha, ih hl i⟩

end Entries

/-! ### Each act -/

namespace Balanced

theorem empty : Balanced core {} where
  paired := nofun
  live _ := rfl
  created _ := Nat.le_refl _

/-- Ledgers that count the same. -/
theorem congr_ledgers (hs : s.Balanced core)
    (hls : ∀ label, (ls label).contextsLive = (s.ledgers label).contextsLive ∧
      (ls label).contextsCreated = (s.ledgers label).contextsCreated) :
    Balanced core { s with ledgers := ls } where
  paired := hs.paired
  live label := (hls label).1.trans (hs.live label)
  created label := by
    rw [(hls label).1, (hls label).2]
    exact hs.created label

theorem create (hs : s.Balanced core) (d : Device) (g : Granularity) :
    Balanced core { s with workspaces := s.workspaces ++ [.ofDevice d g] } where
  paired := List.forall_mem_append.2
    ⟨hs.paired, List.forall_mem_singleton.2 (Workspace.paired_ofDevice d g)⟩
  live label := by
    rw [hs.live, registered, registered, List.map_append, List.sum_append]
    rfl
  created := hs.created

/-- A use of a workspace that registers nothing. -/
theorem change {f : Workspace → Workspace} (hs : s.Balanced core) (i : Nat)
    (hpaired : ∀ w, w.Paired → (f w).Paired) (hmodels : ∀ w, (f w).models = w.models) :
    Balanced core (s.change i f) where
  paired := forall_mem_modify hpaired hs.paired i
  live label := by
    have hnames : ∀ w : Workspace,
        ((f w).namesOf core label).length = (w.namesOf core label).length := fun w => by
      rw [Workspace.namesOf, hmodels, Workspace.namesOf]
    rw [registered, World.change, map_modify hnames]
    exact hs.live label
  created := hs.created

theorem register (hs : s.Balanced core) (hw : s.workspaces[i]? = some w) (r : Registration) :
    Balanced core { s with
      workspaces := s.workspaces.set i
        (w.register (s.ledgers (core r.model)) r.name r.model r.batchSize).2.2
      ledgers := Function.update s.ledgers (core r.model)
        (w.register (s.ledgers (core r.model)) r.name r.model r.batchSize).2.1 } := by
  have hpaired := hs.paired w (List.mem_of_getElem? hw)
  obtain ⟨hpaired', n, created, hlive, hcreated, hle, hnames⟩ :=
    (Workspace.register_registers w r (s.ledgers (core r.model))).accounted core hpaired
  generalize w.register (s.ledgers (core r.model)) r.name r.model r.batchSize = outcome at *
  refine ⟨fun w' hw' => ?_, fun label => ?_, fun label => ?_⟩
  · rcases List.mem_or_eq_of_mem_set hw' with hw' | rfl
    · exact hs.paired w' hw'
    · exact hpaired'
  · have hsum := sum_map_set hw outcome.2.2 fun w => (w.namesOf core label).length
    rw [hnames] at hsum
    have hlabel := hs.live label
    simp only [registered, direct, Function.update_apply] at hlabel ⊢
    by_cases hcore : label = core r.model
    · rw [if_pos hcore, hlive, ← hcore]
      rw [if_pos hcore.symm] at hsum
      omega
    · rw [if_neg hcore]
      rw [if_neg (Ne.symm hcore)] at hsum
      omega
  · have hbound := hs.created label
    simp only [Function.update_apply]
    split
    · next hcore =>
      subst hcore
      omega
    · exact hbound

theorem newContext (hs : s.Balanced core) {m : Model} {c : Context} {l : Ledger}
    (h : m.createContext (s.ledgers (core m)) = .ok (c, l)) :
    Balanced core { s with
      contexts := s.contexts ++ [c], ledgers := Function.update s.ledgers (core m) l } := by
  obtain ⟨-, rfl, rfl⟩ := Model.createContext_eq_ok_iff.1 h
  refine ⟨hs.paired, fun label => ?_, fun label => ?_⟩
  · have hlabel := hs.live label
    have hnew (name : String) : (s.contexts ++ [m.contextFor name]).countP (core ·.model = label) =
        s.direct core label + if core m = label then 1 else 0 := by
      by_cases hcore : core m = label <;> simp [direct, Model.contextFor, hcore]
    rw [direct, hnew]
    simp only [registered, Function.update_apply] at hlabel ⊢
    by_cases hcore : label = core m
    · subst hcore
      simp only [if_true]
      omega
    · rw [if_neg hcore, if_neg (Ne.symm hcore)]
      exact hlabel
  · have hbound := hs.created label
    simp only [Function.update_apply]
    split
    · next hcore =>
      subst hcore
      exact Nat.succ_le_succ hbound
    · exact hbound

theorem setScratch (hs : s.Balanced core) (i : Nat) (base : Address) :
    Balanced core { s with contexts := s.contexts.modify i (·.setScratch base) } where
  paired := hs.paired
  live label := by
    have hmodels := map_modify (f := (·.setScratch base)) (g := Context.model) (fun _ => rfl)
      s.contexts i
    have hdirect : ∀ cs : List Context,
        cs.countP (core ·.model = label) = (cs.map Context.model).countP (core · = label) :=
      fun cs => by rw [List.countP_map]; rfl
    rw [hs.live, direct, direct, hdirect, hdirect, hmodels]
    rfl
  created := hs.created

/-- What a drop releases is what the names of the workspace count. -/
theorem registered_drop (hs : s.Balanced core) (i : Nat) (unwinding : Bool)
    (order : List (Key × Executor)) (label : String) :
    ((s.workspaces.eraseIdx i).map fun w => (w.namesOf core label).length).sum +
      (s.released (.drop i unwinding order)).countP (core ·.model = label) =
        s.registered core label := by
  rw [released, registered]
  cases hw : s.workspaces[i]? with
  | none =>
    rw [List.eraseIdx_of_length_le (List.getElem?_eq_none_iff.1 hw)]
    rfl
  | some w =>
    rw [Option.map_some, Option.getD_some, Workspace.dropInOrder_contexts,
      (hs.paired w (List.mem_of_getElem? hw)).countP_contexts, Nat.add_comm]
    exact sum_map_eraseIdx hw fun w => (w.namesOf core label).length

end Balanced

theorem direct_dropContext (core : Model → String) (s : World) (i : Nat) (label : String) :
    (s.contexts.eraseIdx i).countP (core ·.model = label) +
      (s.released (.dropContext i)).countP (core ·.model = label) = s.direct core label := by
  rw [released, direct]
  cases hc : s.contexts[i]? with
  | none =>
    rw [List.eraseIdx_of_length_le (List.getElem?_eq_none_iff.1 hc)]
    rfl
  | some c => exact countP_eraseIdx hc _

namespace Balanced

/-- Nothing is released that is not counted. -/
theorem released_le (hs : s.Balanced core) (a : Act) (label : String) :
    (s.released a).countP (core ·.model = label) ≤ (s.ledgers label).contextsLive := by
  rw [hs.live]
  cases a with
  | drop i unwinding order =>
    have hdrop := hs.registered_drop i unwinding order label
    omega
  | dropContext i =>
    have hdrop := direct_dropContext core s i label
    omega
  | _ => exact Nat.zero_le _

/-- Contexts are released, and no longer counted. -/
theorem releaseAll {s' : World} (hs : s.Balanced core) (hpaired : ∀ w ∈ s'.workspaces, w.Paired)
    (hledgers : s'.ledgers = World.releaseAll core s.ledgers cs)
    (hcount : ∀ label, s'.registered core label + s'.direct core label +
      cs.countP (core ·.model = label) = s.registered core label + s.direct core label) :
    s'.Balanced core where
  paired := hpaired
  live label := by
    have hlabel := hcount label
    rw [hledgers, (releaseAll_apply s.ledgers cs label).1, hs.live]
    omega
  created label := by
    have hbound := hs.created label
    rw [hledgers, (releaseAll_apply s.ledgers cs label).1, (releaseAll_apply s.ledgers cs label).2]
    omega

theorem act (hs : s.Balanced core) (a : Act) : (s.act core a).Balanced core := by
  cases a with
  | create d g =>
    rw [World.act]
    cases h : Workspace.create d g with
    | error _ => exact hs
    | ok w =>
      obtain ⟨_, -, h⟩ := bind_eq_ok_iff.1 h
      cases h
      exact hs.create d g
  | register i r =>
    rw [World.act]
    cases hw : s.workspaces[i]? with
    | none => exact hs
    | some w => exact hs.register hw r
  | build i =>
    exact hs.change i (fun w hw => (Workspace.build_builds w).paired hw)
      fun w => (Workspace.build_builds w).retains.models
  | launch i e => exact hs.change i (fun _ hw => hw.congr rfl rfl) fun _ => rfl
  | synchronize i =>
    refine hs.change i (fun w hw => ?_) fun w => ?_
    · rw [Workspace.synchronize, Workspace.Procedure.on_callDevice]
      exact hw.congr rfl rfl
    · rw [Workspace.synchronize, Workspace.Procedure.on_callDevice]
  | device i f => exact hs.change i (fun _ hw => hw.congr rfl rfl) fun _ => rfl
  | drop i unwinding order =>
    refine hs.releaseAll (fun w hw => hs.paired w (List.mem_of_mem_eraseIdx hw)) rfl fun label => ?_
    have hdrop := hs.registered_drop i unwinding order label
    have hrest : _ + s.direct core label + _ = s.registered core label + s.direct core label :=
      (Nat.add_right_comm _ _ _).trans (congrArg (· + s.direct core label) hdrop)
    exact hrest
  | rename label name =>
    refine hs.congr_ledgers fun label' => ?_
    rw [Function.update_apply]
    split
    · next h => exact h ▸ ⟨rfl, rfl⟩
    · exact ⟨rfl, rfl⟩
  | newContext m =>
    rw [World.act]
    cases h : m.createContext (s.ledgers (core m)) with
    | error _ => exact hs
    | ok created => exact hs.newContext h
  | setScratch i base => exact hs.setScratch i base
  | dropContext i =>
    refine hs.releaseAll hs.paired rfl fun label => ?_
    have hdrop := direct_dropContext core s i label
    have hrest : s.registered core label + _ + _ = s.registered core label + s.direct core label :=
      (Nat.add_assoc _ _ _).trans (congrArg (s.registered core label + ·) hdrop)
    exact hrest

theorem run (hs : s.Balanced core) (acts : List Act) : (s.run core acts).Balanced core := by
  induction acts generalizing s with
  | nil => exact hs
  | cons a acts ih => exact ih (hs.act a)

end Balanced

/-- Whatever is done, each model object has one live context for each name that is registered to it
    in a workspace that exists, and one for each that was created otherwise and not given back. -/
theorem context_accounting (core : Model → String) (acts : List Act) :
    let s : World := run core {} acts
    (∀ label,
      (s.ledgers label).contextsLive = s.registered core label + s.direct core label ∧
        (s.ledgers label).contextsLive ≤ (s.ledgers label).contextsCreated) ∧
    -- Each name counts once for the model that it is registered to.
    (∀ w ∈ s.workspaces, ∀ label, (w.namesOf core label).Nodup ∧
      ∀ name, name ∈ w.namesOf core label ↔ ∃ m, w.models.find? name = some m ∧ core m = label) ∧
    -- No context is released unless one is live, be it in turn with others or by a registration.
    (∀ a front c rest, s.released a = front ++ c :: rest →
      0 < (releaseAll core s.ledgers front (core c.model)).contextsLive) ∧
    (∀ w ∈ s.workspaces, ∀ (r : Registration) l c l',
      w.openContext r.name r.model l = .ok (some c, l') → 0 < l'.contextsLive) ∧
    -- A name that is registered has no other context created for it.
    ∀ w ∈ s.workspaces, ∀ (r : Registration) m, w.models.find? r.name = some m → ∀ l,
      (w.register l r.name r.model r.batchSize).2.1.contextsCreated = l.contextsCreated := by
  intro s
  have hs : s.Balanced core := Balanced.empty.run acts
  refine ⟨fun label => ⟨hs.live label, hs.created label⟩, fun w hw label => ?names,
    fun a front c rest hreleased => ?turn, fun w _ r l c l' hopen => ?opened,
    fun w hw r m hm l => ?bound⟩
  case names =>
    exact ⟨(hs.paired w hw).nodup_namesOf label, fun _ => (hs.paired w hw).mem_namesOf_iff⟩
  case turn => exact live_of_releaseAll (hs.released_le a) hreleased
  case opened =>
    rw [Workspace.openContext_live hopen]
    exact Nat.succ_pos _
  case bound => exact (Workspace.register_registers w r l).contextsCreated_eq (hs.paired w hw) hm

/-- Something that stands in front of the sample model, and says that it takes smaller batches. -/
def facade : Model := { Model.sample with label := "f", report := some { maxBatchSize := some 2 } }

/-- A model in two workspaces, in one of them under two names and once behind something else. One
    registration is turned down after a context was created for it, and one workspace fails to come
    to rest when it is dropped. -/
theorem context_accounting_shared :
    let core (m : Model) : String := if m.label = "f" then "m" else m.label
    let shared : List Act := [.create .sample {}, .create (Device.sample.arm .synchronize) {},
      .register 0 ⟨"a", .sample, 4⟩, .register 0 ⟨"a", .sample, 1⟩, .register 0 ⟨"b", facade, 2⟩,
      .register 0 ⟨"c", Workspace.immense, 1⟩, .newContext .sample, .register 1 ⟨"a", .sample, 4⟩]
    let s : World := run core {} shared
    let rest : World := run core {} (shared ++ [.drop 1 false [], .dropContext 0])
    (s.ledgers "m").contextsLive = 4 ∧ s.registered core "m" = 3 ∧ s.direct core "m" = 1 ∧
      (rest.ledgers "m").contextsLive = 2 ∧ (rest.ledgers "i").contextsLive = 0 := by
  intro core shared s rest
  obtain ⟨hcount, -⟩ := context_accounting core shared
  obtain ⟨hrest, -⟩ := context_accounting core (shared ++ [.drop 1 false [], .dropContext 0])
  have hregistered : s.registered core "m" = 3 := by decide +kernel
  have hdirect : s.direct core "m" = 1 := by decide +kernel
  refine ⟨?_, hregistered, hdirect, ?_, ?_⟩
  · rw [(hcount "m").1, hregistered, hdirect]
  · rw [(hrest "m").1]
    decide +kernel
  · rw [(hrest "i").1]
    decide +kernel

end World

end GraphReplay
