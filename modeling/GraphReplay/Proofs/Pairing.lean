import GraphReplay.Proofs.RegisterSteps
import GraphReplay.Workspace.Teardown

/-!
# The contexts of a workspace

A workspace has one context for each name that is registered in it, and the context is
one of the name's model. The two tables agree entry by entry, so the contexts that are
released in the end are as many, of each model, as the names that are registered to it.

* `Paired`: the two tables agree. Accepted registrations (`Paired.enlisted`) and builds
  (`Builds.paired`) keep this up;
* `dropInOrder_contexts`: a drop releases all contexts, whatever it comes to;
* `namesOf`: the names of a model object, also of one that others stand in front of;
* `Registers.accounted`: how many contexts a registration creates and keeps.
-/

namespace GraphReplay.Workspace

variable {w w' : Workspace} {r : Registration} {name : String} {m : Model}

/-! ## Names and contexts -/

/-- Every name has a context, and it is one of its model. -/
structure Paired (w : Workspace) : Prop where
  ordered : w.models.Ordered
  contexts : w.contexts.map Context.model = w.models

theorem paired_ofDevice (d : Device) (g : Granularity) : (ofDevice d g).Paired :=
  ⟨Table.ordered_empty, rfl⟩

theorem Paired.congr (hw : w.Paired) (hmodels : w'.models = w.models)
    (hcontexts : w'.contexts = w.contexts) : w'.Paired := by
  refine ⟨hmodels ▸ hw.ordered, ?_⟩
  rw [hmodels, hcontexts, hw.contexts]

theorem Paired.find?_contexts (hw : w.Paired) (name : String) :
    (w.contexts.find? name).map Context.model = w.models.find? name := by
  rw [← Table.find?_map, hw.contexts]

theorem Paired.has_iff (hw : w.Paired) (name : String) :
    w.contexts.has name = true ↔ ∃ m, w.models.find? name = some m := by
  rw [← hw.find?_contexts, Table.has, ← Option.isSome_map, Option.isSome_iff_exists]

/-- A name that has its context keeps it, and its model. -/
theorem Paired.insert_of_has (hw : w.Paired) (hhas : w.contexts.has r.name = true)
    (hcheck : w.checkRegistration r.name r.model r.batchSize = .ok ()) :
    w.models.insert r.name r.model = w.models := by
  obtain ⟨-, -, -, -, hsame⟩ := checkRegistration_eq_ok_iff.1 hcheck
  obtain ⟨m, hm⟩ := (hw.has_iff r.name).1 hhas
  exact hw.ordered.insert_of_find? (hsame m hm ▸ hm)

theorem Paired.enlisted (hw : w.Paired) {q : Requirements} (h : w.Accepts r q) :
    (w.enlisted r q).Paired := by
  refine ⟨hw.ordered.insert _ _, ?_⟩
  rw [Workspace.enlisted, Table.supply]
  by_cases hhas : w.contexts.has r.name
  · rw [if_pos hhas, hw.insert_of_has hhas h.check, hw.contexts]
  · rw [if_neg hhas, ← Table.insert_map, hw.contexts]
    rfl

/-! ## Builds -/

section Building

variable {key : Key} {mode : CaptureMode} {scratch : Address}

/-- A context that is pointed at its scratch memory is of the same model. -/
theorem Paired.prepared (hw : w.Paired) {c : Context} (hc : w.contexts.find? key.name = some c) :
    (w.prepared key c scratch).Paired := by
  have hm : w.models.find? key.name = some c.model := by rw [← hw.find?_contexts, hc, Option.map_some]
  refine ⟨hw.ordered, ?_⟩
  rw [Workspace.prepared, ← Table.insert_map, hw.contexts]
  exact hw.ordered.insert_of_find? hm

theorem Places.paired {a : Except Abort (List Address)} (hw : w.Paired) (h : Places name m w a w') :
    w'.Paired := by
  cases h <;> exact hw.congr rfl rfl

theorem BuildsKey.paired {a : Except Abort Unit} (hw : w.Paired)
    (h : BuildsKey mode scratch key m w a w') : w'.Paired := by
  cases h with
  | contextless _ => exact hw.congr rfl rfl
  | unplaced hc hp => exact hp.paired (hw.prepared hc)
  | uncaptured hc hp _ => exact (hp.paired (hw.prepared hc)).congr rfl rfl
  | uninstantiated hc hp _ _ => exact (hp.paired (hw.prepared hc)).congr rfl rfl
  | built hc hp _ _ => exact (hp.paired (hw.prepared hc)).congr rfl rfl

theorem BuildsKeys.paired {entries : List (Key × Model)} {a : Except Abort Unit}
    (h : BuildsKeys mode scratch entries w a w') (hw : w.Paired) : w'.Paired := by
  induction h with
  | nil => exact hw
  | stop hkey => exact hkey.paired hw
  | cons hkey _ ih => exact ih (hkey.paired hw)

theorem Builds.paired {a : Except Abort Unit} (hw : w.Paired) (h : Builds w a w') : w'.Paired := by
  cases h with
  | again _ => exact hw
  | empty _ _ => exact hw.congr rfl rfl
  | noStack _ _ _ => exact hw.congr rfl rfl
  | noActivations _ _ _ _ => exact hw.congr rfl rfl
  | stopped _ _ _ _ hkeys => exact hkeys.paired (hw.congr rfl rfl)
  | finished _ _ _ _ hkeys => exact (hkeys.paired (hw.congr rfl rfl)).congr rfl rfl

end Building

/-! ## Drops -/

section Dropping

open Procedure

variable {α β : Type} {x : Procedure α}

/-- The procedure leaves the contexts as they are. -/
def Spares (x : Procedure α) : Prop := ∀ w, (x.on w).2.contexts = w.contexts

theorem Spares.bind {f : α → Procedure β} (hx : Spares x) (hf : ∀ a, Spares (f a)) :
    Spares (x >>= f) := by
  intro w
  have hw := hx w
  rw [on_bind]
  generalize x.on w = done at hw ⊢
  obtain ⟨e | a, w'⟩ := done
  · exact hw
  · exact (hf a w').trans hw

theorem spares_callDevice (task : DeviceTask) (call : Device → Device.Answer α) :
    Spares (callDevice task call) := by
  intro w
  rw [on_callDevice]

theorem spares_destroyExecutors (executors : List (Key × Executor)) :
    Spares (destroyExecutors executors) := by
  induction executors with
  | nil => exact fun _ => rfl
  | cons x executors ih => exact (spares_callDevice _ _).bind fun _ => ih

theorem spares_destroyGraphs (graphs : List (Key × Graph)) : Spares (destroyGraphs graphs) := by
  induction graphs with
  | nil => exact fun _ => rfl
  | cons g graphs ih => exact (spares_callDevice _ _).bind fun _ => ih

theorem spares_dismantle (order : List (Key × Executor)) : Spares (dismantle order) :=
  have hnote (n : Log.Note) : Spares (note n) := fun _ => rfl
  have hget : Spares (get : Procedure Workspace) := fun _ => rfl
  (hnote _).bind fun _ => (spares_callDevice _ _).bind fun _ => hget.bind fun _ =>
    (hnote _).bind fun _ => (spares_destroyExecutors order).bind fun _ => hget.bind fun _ =>
      (hnote _).bind fun _ => spares_destroyGraphs _

/-- However far a teardown comes, all contexts are released. -/
theorem dropInOrder_contexts (w : Workspace) (unwinding : Bool) (order : List (Key × Executor)) :
    (w.dropInOrder unwinding order).2.contexts = w.contexts.entries.map (·.2) := by
  have hw := spares_dismantle order w
  rw [dropInOrder]
  generalize (dismantle order).on w = dismantled at hw ⊢
  obtain ⟨⟨e | x⟩ | ⟨⟩, w'⟩ := dismantled <;> cases unwinding <;>
    exact congrArg (·.entries.map (·.2)) hw

end Dropping

/-! ## Names of a model -/

section Names

variable (core : Model → String)

/-- The names that are registered to the model object `label`, be it directly or through others that
    stand in front of it: `core` tells which object is behind each. -/
def namesOf (w : Workspace) (label : String) : List String :=
  (w.models.entries.filter (core ·.2 = label)).map (·.1)

variable {core} {label : String}

theorem Paired.nodup_namesOf (hw : w.Paired) (label : String) : (w.namesOf core label).Nodup :=
  hw.ordered.nodup.sublist (List.filter_sublist.map _)

theorem Paired.mem_namesOf_iff (hw : w.Paired) :
    name ∈ w.namesOf core label ↔ ∃ m, w.models.find? name = some m ∧ core m = label := by
  simp only [namesOf, List.mem_map, List.mem_filter, decide_eq_true_eq]
  constructor
  · rintro ⟨⟨_, m⟩, ⟨hmem, hcore⟩, rfl⟩
    exact ⟨m, hw.ordered.mem_iff.1 hmem, hcore⟩
  · rintro ⟨m, hm, hcore⟩
    exact ⟨(name, m), ⟨hw.ordered.mem_iff.2 hm, hcore⟩, rfl⟩

/-- What a drop releases of a model is one context for each of its names. -/
theorem Paired.countP_contexts (hw : w.Paired) (label : String) :
    (w.contexts.entries.map (·.2)).countP (core ·.model = label) = (w.namesOf core label).length := by
  rw [namesOf, List.length_map, ← List.countP_eq_length_filter, ← hw.contexts, Table.map,
    List.countP_map, List.countP_map]
  rfl

/-- One more name, if it is new. -/
theorem Paired.length_namesOf_enlisted (hw : w.Paired) {q : Requirements} (h : w.Accepts r q)
    (label : String) : ((w.enlisted r q).namesOf core label).length =
      (w.namesOf core label).length + if core r.model = label then (w.opens r).toNat else 0 := by
  rw [namesOf, namesOf, List.length_map, List.length_map, Workspace.enlisted, opens]
  by_cases hhas : w.contexts.has r.name
  · rw [hw.insert_of_has hhas h.check]
    simp [hhas]
  · have hnew : w.models.find? r.name = none := by
      rw [← Option.not_isSome_iff_eq_none, Option.isSome_iff_exists, ← hw.has_iff]
      exact hhas
    have hperm := (Table.perm_insertEntry r.model hnew).filter (core ·.2 = label)
    rw [Table.insert, hperm.length_eq]
    by_cases hcore : core r.model = label <;> simp [hhas, hcore]

end Names

/-- A registration counts the names that it adds, and releases what it created otherwise. -/
theorem Registers.accounted (core : Model → String) {l l' : Ledger} {answer : Except Abort Unit}
    (hw : w.Paired) (h : Registers w r l answer l' w') :
    w'.Paired ∧ ∃ n created, l'.contextsLive = l.contextsLive + n ∧
      l'.contextsCreated = l.contextsCreated + created ∧ n ≤ created ∧
      ∀ label, (w'.namesOf core label).length =
        (w.namesOf core label).length + if core r.model = label then n else 0 := by
  cases h with
  | refused _ => exact ⟨hw, 0, 0, rfl, rfl, Nat.le_refl _, fun _ => by simp⟩
  | contextless _ _ _ => exact ⟨hw, 0, 0, rfl, rfl, Nat.le_refl _, fun _ => by simp⟩
  | unmeasured _ _ _ => exact ⟨hw, 0, _, rfl, rfl, Nat.zero_le _, fun _ => by simp⟩
  | accepted h =>
    exact ⟨hw.enlisted h, _, _, rfl, rfl, Nat.le_refl _, hw.length_namesOf_enlisted h⟩

/-- A name that is registered has no context created for it. -/
theorem Registers.contextsCreated_eq {l l' : Ledger} {answer : Except Abort Unit} (hw : w.Paired)
    (hm : w.models.find? r.name = some m) (h : Registers w r l answer l' w') :
    l'.contextsCreated = l.contextsCreated := by
  have hopens : w.opens r = false := by
    rw [opens, (hw.has_iff r.name).2 ⟨m, hm⟩]
    rfl
  have hledger : (w.ledgerAfter r l).contextsCreated = l.contextsCreated := by
    rw [ledgerAfter, hopens]
    rfl
  cases h with
  | refused _ => rfl
  | contextless _ _ _ => rfl
  | unmeasured _ _ _ => exact hledger
  | accepted _ => exact hledger

end GraphReplay.Workspace
