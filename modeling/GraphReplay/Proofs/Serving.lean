import GraphReplay.Proofs.Placement

/-!
# What is served

An executor that a workspace serves for a key replays one launch, and it is the
right one: the kernel of the key's name, for the key's batch size, on the tensors
of the name and on the scratch memory. This stays so whatever a build comes to,
because a capture records the launch of one context only (`Captures.ops_eq`), the
context of a name is made for the name it is registered under, whatever name the
model has by then, and tensors that were placed stay where they are.

* `Serving`: what is so at any time of what is served;
* `executor_replays`: it holds of every reachable workspace.
-/

namespace GraphReplay

/-- When a context launches, and what. -/
theorem Context.operation_eq_ok_iff {c : Context} {base : Address} {batchSize : Nat}
    {ps : List Address} {op : Op} (hbase : c.scratch = some base) :
    c.operation batchSize ps = .ok op ↔
      ps.length = c.model.bindings.length ∧ batchSize ≤ c.model.maxBatchSize ∧
        c.model.failsEnqueue = false ∧ op = ⟨c.kernel, batchSize, ps ++ [base]⟩ := by
  simp only [operation, hbase]
  by_cases hlength : ps.length = c.model.bindings.length
  · rw [if_neg (not_not_intro hlength)]
    by_cases hmax : c.model.maxBatchSize < batchSize
    · simp [hmax, Nat.not_le.2 hmax]
    · rw [if_neg hmax]
      by_cases hfails : c.model.failsEnqueue <;>
        simp [hfails, hlength, Nat.not_lt.1 hmax, eq_comm]
  · simp [hlength]

namespace Workspace

variable {w w' : Workspace} {s : BindingStack} {a : ActivationSpace} {key : Key} {m : Model}
variable {mode : CaptureMode}

/-- A capture records the launch of its context, and nothing else. -/
theorem Captures.ops_eq {c : Context} {ps : List Address} {d d' : Device} {g : Graph}
    (h : Captures mode key c ps d (.ok g) d') :
    ∃ op, c.operation key.batchSize ps = .ok op ∧ g.ops = [op] := by
  cases h with
  | captured hbegin hop hend =>
    obtain ⟨-, -, rfl⟩ := Device.beginCapture_eq_ok_iff.1 hbegin
    obtain ⟨ops, hops, -, -, rfl, -⟩ := Device.endCapture_eq_ok_iff.1 hend
    cases hops
    exact ⟨_, hop, rfl⟩

/-- What is served for a key replays one launch: the kernel of its name, for its batch size, on the
    tensors of the name and on the scratch memory. -/
def Serving (w : Workspace) : Prop :=
  ∀ key e, w.executors.find? key = some e → ∃ ps a, w.bindings.find? key.name = some ps ∧
    w.activations = some a ∧ e.ops = [⟨key.name ++ "::forward", key.batchSize, ps ++ [a.base]⟩]

/-- Whatever else changes, tensors that were placed have to stay where they are. -/
theorem Serving.congr (hw : w.Serving) (hexec : w'.executors = w.executors)
    (hact : w'.activations = w.activations)
    (hbind : ∀ {name ps}, w.bindings.find? name = some ps → w'.bindings.find? name = some ps) :
    w'.Serving := by
  intro key e he
  rw [hexec] at he
  obtain ⟨ps, a, hps, ha, hops⟩ := hw key e he
  exact ⟨ps, a, hbind hps, hact.trans ha, hops⟩

theorem Places.executors_eq {name : String} {r : Except Abort (List Address)}
    (h : Places name m w r w') : w'.executors = w.executors := by
  cases h <;> rfl

theorem Places.graphs_eq {name : String} {r : Except Abort (List Address)}
    (h : Places name m w r w') : w'.graphs = w.graphs := by
  cases h <;> rfl

/-- A key does not touch what other keys left to serve. -/
theorem BuildsKey.find?_of_ne {scratch : Address} {key' : Key} {r : Except Abort Unit}
    (hne : key' ≠ key) (h : BuildsKey mode scratch key m w r w') :
    w'.graphs.find? key' = w.graphs.find? key' ∧ w'.executors.find? key' = w.executors.find? key' := by
  cases h with
  | contextless _ => exact ⟨rfl, rfl⟩
  | unplaced _ hp =>
    rw [hp.graphs_eq, hp.executors_eq]
    exact ⟨rfl, rfl⟩
  | uncaptured _ hp _ => exact ⟨by rw [hp.graphs_eq]; rfl, by rw [hp.executors_eq]; rfl⟩
  | uninstantiated _ hp _ _ =>
    rw [keeping, Table.find?_insert_of_ne _ _ hne, hp.graphs_eq, hp.executors_eq]
    exact ⟨rfl, rfl⟩
  | built _ hp _ _ =>
    rw [keeping, Table.find?_insert_of_ne _ _ hne, Table.find?_insert_of_ne _ _ hne, hp.graphs_eq,
      hp.executors_eq]
    exact ⟨rfl, rfl⟩

theorem BuildsKeys.find?_of_notMem {scratch : Address} {entries : List (Key × Model)} {r : Except Abort Unit}
    (h : BuildsKeys mode scratch entries w r w') (hkey : key ∉ entries.map (·.1)) :
    w'.graphs.find? key = w.graphs.find? key ∧ w'.executors.find? key = w.executors.find? key := by
  induction h with
  | nil => exact ⟨rfl, rfl⟩
  | stop hstop => exact hstop.find?_of_ne (List.ne_of_not_mem_cons hkey)
  | cons hfirst _ ih =>
    obtain ⟨hgraphs, hexecutors⟩ := hfirst.find?_of_ne (List.ne_of_not_mem_cons hkey)
    obtain ⟨hgraphs', hexecutors'⟩ := ih (List.not_mem_of_not_mem_cons hkey)
    exact ⟨hgraphs'.trans hgraphs, hexecutors'.trans hexecutors⟩

/-- Serving survives the placing of tensors. -/
theorem Places.serving {c : Context} {scratch : Address} {r : Except Abort (List Address)}
    (hw : w.Serving) (h : Places key.name m (w.prepared key c scratch) r w') : w'.Serving :=
  hw.congr (h.executors_eq.trans rfl) (h.activations_eq.trans rfl) fun hb => h.keeps hb

theorem BuildsKey.serving {r : Except Abort Unit} (hw : w.Underway s a) (hserving : w.Serving)
    (h : BuildsKey mode a.base key m w r w') : w'.Serving := by
  cases h with
  | contextless _ => exact hserving.congr rfl rfl id
  | unplaced _ hp => exact hp.serving hserving
  | uncaptured _ hp _ => exact (hp.serving hserving).congr rfl rfl id
  | uninstantiated _ hp _ _ => exact (hp.serving hserving).congr rfl rfl id
  | @built c ps w₁ g d d' e hc hp hcap hi =>
    -- Only this key gets an executor; the others keep what they have.
    intro key' e' he
    rw [Table.find?_insert] at he
    split at he
    · next hkey =>
      cases he
      -- The context is the one of this name, so its kernel has this name in it.
      obtain ⟨m', -, hunset⟩ := hw.registry.model_of_context hc
      have hkernel : (c.setScratch a.base).kernel = key.name ++ "::forward" :=
        congrArg Context.kernel hunset
      obtain ⟨op, hop, hg⟩ := hcap.ops_eq
      obtain ⟨-, -, -, rfl⟩ := (Context.operation_eq_ok_iff rfl).1 hop
      obtain ⟨-, -, -, rfl, -⟩ := Device.instantiate_eq_ok_iff.1 hi
      rw [hkernel] at hg
      rw [hkey]
      exact ⟨ps, a, hp.find?_eq, hp.activations_eq.trans hw.activations, hg⟩
    · exact hp.serving hserving key' e' he

theorem BuildsKeys.serving {r : Except Abort Unit} (hw : w.Underway s a) (hserving : w.Serving)
    (h : BuildsKeys mode a.base w.modelsByKey.entries w r w') : w'.Serving := by
  rcases h.outcome (I := Serving) (fun _ _ _ _ hw₁ _ hserving₁ hkey => hkey.serving hw₁ hserving₁)
      hw hserving (fun _ _ => hw.registry.mem_models) with
    ⟨-, -, hserving'⟩ | ⟨e, key, m, w₁, -, -, hw₁, hserving₁, -, hkey⟩
  · exact hserving'
  · exact hkey.serving hw₁ hserving₁

theorem serving_of_unserved (hw : w.executors = {}) : w.Serving := by
  intro key e he
  rw [hw] at he
  cases he

theorem Builds.serving {r : Except Abort Unit} (hreg : w.Registry)
    (hbare : w.phase = .registering → w.Bare) (hserving : w.Serving) (h : Builds w r w') :
    w'.Serving := by
  cases h with
  | again _ => exact hserving
  | empty _ _ => exact hserving.congr rfl rfl id
  | noStack _ _ _ => exact hserving.congr rfl rfl id
  | noActivations _ _ _ _ => exact hserving.congr rfl rfl id
  | @stopped s a d d' e w' hp _ hs ha hkeys =>
    have hunserved : (w.furnished s a d d').executors = {} := (hbare hp).executors
    exact hkeys.serving (underway_furnished hreg (hbare hp) hs ha) (serving_of_unserved hunserved)
  | @finished s a d d' w' hp _ hs ha hkeys =>
    have hunserved : (w.furnished s a d d').executors = {} := (hbare hp).executors
    have hserved := hkeys.serving (underway_furnished hreg (hbare hp) hs ha)
      (serving_of_unserved hunserved)
    exact hserved.congr rfl rfl id

/-- What is so of what is served in every reachable workspace. -/
theorem Reachable.serving {held : List Buffer} (hw : w.Reachable held) : w.Serving := by
  refine hw.induct ?_ ?_ ?_ ?_ ?_
  · exact fun d g _ => serving_of_unserved rfl
  · exact fun _ w name m n r _ _ _ hserving => hserving.congr rfl rfl id
  · exact fun _ w hw hserving => (build_builds w).serving hw.registry hw.bare hserving
  · exact fun w d _ hserving => hserving.congr rfl rfl id
  · exact fun w hserving => hserving.congr rfl rfl id

theorem executor_eq_ok_iff {e : Executor} : w.executor key = .ok e ↔ w.executors.find? key = some e := by
  rw [executor]
  cases w.executors.find? key <;> simp

/-- Every executor that is served is the right one: it replays one launch, of the kernel of the
    key's own name, for the key's batch size, on the addresses that are given out for the name and
    on the scratch memory. So the executors of a name work on the same tensors, and all executors
    on the same scratch memory. -/
theorem executor_replays {held : List Buffer} (hw : w.Reachable held) {e : Executor}
    (h : w.executor key = .ok e) :
    ∃ ps a, w.addresses key.name = .ok ps ∧ w.activations = some a ∧
      e.ops = [{ kernel := key.name ++ "::forward"
                 batchSize := key.batchSize
                 args := ps ++ [a.base] }] ∧
      ∀ key' e', w.executor key' = .ok e' → ∃ op, e'.ops = [op] ∧
        op.args.getLast? = some a.base ∧ (key'.name = key.name → op.args = ps ++ [a.base]) := by
  obtain ⟨ps, a, hps, ha, hops⟩ := hw.serving key e (executor_eq_ok_iff.1 h)
  refine ⟨ps, a, addresses_eq_ok_iff.2 hps, ha, hops, fun key' e' h' => ?_⟩
  obtain ⟨ps', a', hps', ha', hops'⟩ := hw.serving key' e' (executor_eq_ok_iff.1 h')
  obtain rfl : a' = a := Option.some.inj (ha'.symm.trans ha)
  refine ⟨_, hops', List.getLast?_concat .., fun hname => ?_⟩
  rw [hname] at hps'
  obtain rfl : ps' = ps := Option.some.inj (hps'.symm.trans hps)
  rfl

/-- The model of this workspace goes by two names, and each has its own kernel. -/
theorem sample_executor_replays :
    sample.build.2.executor ⟨"b", 2⟩ =
        .ok ⟨6, [⟨"b::forward", 2, [⟨1024⟩, ⟨1536⟩, ⟨132328⟩]⟩]⟩ ∧
      ∃ ps a, sample.build.2.addresses "b" = .ok ps ∧ sample.build.2.activations = some a ∧
        [⟨"b::forward", 2, [⟨1024⟩, ⟨1536⟩, ⟨132328⟩]⟩] = [Op.mk "b::forward" 2 (ps ++ [a.base])] := by
  have h : sample.build.2.executor ⟨"b", 2⟩ =
      .ok ⟨6, [⟨"b::forward", 2, [⟨1024⟩, ⟨1536⟩, ⟨132328⟩]⟩]⟩ :=
    executor_eq_ok_iff.2 (by decide +kernel)
  obtain ⟨ps, a, hps, ha, hops, -⟩ := executor_replays sample_reachable.build h
  exact ⟨h, ps, a, hps, ha, hops⟩

end Workspace

end GraphReplay
