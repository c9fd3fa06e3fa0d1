import GraphReplay.Proofs.ByteOrder
import GraphReplay.Proofs.Consistency
import GraphReplay.Proofs.Lifecycle
import GraphReplay.Proofs.Resources
import GraphReplay.Proofs.Serving

/-!
# How far a build came

A build goes through the keys in order and never turns back, so what it has done
is done for a beginning of the list of keys, wherever it was given up. For one
key the tensors come first, then the graph and then the executor. So the keys
with executors are the first of those with graphs, these are the first of those
whose names have tensors, and there is at most one key more of the last than of
the first.

* `Progress`: how far each of the three tables came;
* `BuildsKey.progress_of_ok`, `progress_of_error`: one key, built or given up;
* `Reachable.progress`: it is so in every reachable workspace;
* `built_keys_prefix`: what this means for lookups.
-/

namespace GraphReplay.Workspace

variable {w w' : Workspace} {name : String} {m : Model}
variable {mode : CaptureMode} {scratch : Address} {key : Key} {held : List Buffer}
variable {done served captured placed : List Key}

/-- How far a build came in the registered keys: those that have an executor, those that have a
    graph, and those whose name has tensors. -/
structure Progress (w : Workspace) (served captured placed : List Key) : Prop where
  executors : w.executors.keys = served
  graphs : w.graphs.keys = captured
  bindings : ∀ name, name ∈ w.bindings.keys ↔ name ∈ placed.map Key.name
  served_le : served <+: captured
  captured_le : captured <+: placed
  placed_le : placed <+: w.keys
  next : placed.length ≤ served.length + 1

/-- The same tables are filled for the same keys. -/
theorem Progress.congr (hw : w.Progress served captured placed) (hkeys : w'.keys = w.keys)
    (hexec : w'.executors = w.executors) (hgraphs : w'.graphs = w.graphs)
    (hbind : w'.bindings = w.bindings) : w'.Progress served captured placed where
  executors := hexec ▸ hw.executors
  graphs := hgraphs ▸ hw.graphs
  bindings := hbind ▸ hw.bindings
  served_le := hw.served_le
  captured_le := hw.captured_le
  placed_le := hkeys ▸ hw.placed_le
  next := hw.next

/-! ## One key -/

theorem Places.bindings_of_error {x : Abort} (h : Places name m w (.error x) w') :
    w'.bindings = w.bindings := by
  cases h <;> rfl

theorem Places.mem_bindings {ps : List Address} (h : Places name m w (.ok ps) w') {other : String} :
    other ∈ w'.bindings.keys ↔ other = name ∨ other ∈ w.bindings.keys := by
  cases h with
  | known hb =>
    have hname : name ∈ w.bindings.keys := Table.mem_keys_iff.2 ⟨ps, hb⟩
    exact ⟨.inr, fun h => h.elim (· ▸ hname) id⟩
  | laid _ _ _ => exact Table.mem_keys_insert _ _ _ _

/-- What the tensors of the next key add, if they can be placed. -/
theorem Progress.places {ps : List Address} (hw : w.Progress done done done)
    (hnext : done ++ [key] <+: w.keys) (h : Places key.name m w (.ok ps) w') :
    w'.Progress done done (done ++ [key]) where
  executors := h.executors_eq ▸ hw.executors
  graphs := h.graphs_eq ▸ hw.graphs
  bindings other := by
    rw [h.mem_bindings, hw.bindings, List.map_append, List.mem_append, List.map_singleton,
      List.mem_singleton, or_comm]
  served_le := hw.served_le
  captured_le := List.prefix_append _ _
  placed_le := h.retains.keys_eq ▸ hnext
  next := by simp

/-- The keys that were built come before the next one. -/
theorem lt_of_next (hord : w.modelsByKey.Ordered) (hnext : done ++ [key] <+: w.keys) :
    ∀ k ∈ done, k < key := by
  have hpair : (done ++ [key]).Pairwise (· < ·) := List.Pairwise.sublist hnext.sublist hord
  intro k hk
  exact (List.pairwise_append.1 hpair).2.2 k hk key List.mem_cons_self

/-- What the graph of the next key adds. -/
theorem Progress.keeping (hw : w.Progress done done (done ++ [key])) (hlt : ∀ k ∈ done, k < key)
    (g : Graph) (d : Device) : (w.keeping key g d).Progress done (done ++ [key]) (done ++ [key]) where
  executors := hw.executors
  graphs := by
    rw [Workspace.keeping, Table.keys_insert_of_last _ (hw.graphs ▸ hlt), hw.graphs]
  bindings := hw.bindings
  served_le := List.prefix_append _ _
  captured_le := List.prefix_rfl
  placed_le := hw.placed_le
  next := hw.next

theorem BuildsKey.progress_of_ok (hord : w.modelsByKey.Ordered) (hw : w.Progress done done done)
    (hnext : done ++ [key] <+: w.keys) (h : BuildsKey mode scratch key m w (.ok ()) w') :
    w'.Progress (done ++ [key]) (done ++ [key]) (done ++ [key]) := by
  have hlt := lt_of_next hord hnext
  cases h with
  | @built c ps w₁ g d d' e hc hp hcap hi =>
    have hprepared : (w.prepared key c scratch).Progress done done done := hw.congr rfl rfl rfl rfl
    have hkept := (hprepared.places hnext hp).keeping hlt g d'
    refine ⟨?_, hkept.graphs, hkept.bindings, List.prefix_rfl, List.prefix_rfl, hkept.placed_le,
      Nat.le_succ _⟩
    -- Only now the executors catch up with the graphs.
    have hexec : w₁.executors.keys = done := hkept.executors
    rw [Table.keys_insert_of_last _ (hexec ▸ hlt), hexec]

/-- A key that is given up leaves the executors as they were; it may have left tensors and a graph. -/
theorem BuildsKey.progress_of_error {x : Abort} (hord : w.modelsByKey.Ordered)
    (hw : w.Progress done done done) (hnext : done ++ [key] <+: w.keys)
    (h : BuildsKey mode scratch key m w (.error x) w') :
    ∃ captured placed, w'.Progress done captured placed := by
  have hprepared (c : Context) : (w.prepared key c scratch).Progress done done done :=
    hw.congr rfl rfl rfl rfl
  cases h with
  | contextless _ => exact ⟨_, _, hw.congr rfl rfl rfl rfl⟩
  | unplaced _ hp =>
    exact ⟨_, _, (hprepared _).congr hp.retains.keys_eq hp.executors_eq hp.graphs_eq hp.bindings_of_error⟩
  | uncaptured _ hp _ => exact ⟨_, _, ((hprepared _).places hnext hp).congr rfl rfl rfl rfl⟩
  | uninstantiated _ hp _ _ =>
    exact ⟨_, _, ((hprepared _).places hnext hp).keeping (lt_of_next hord hnext) _ _⟩

/-! ## The whole build -/

/-- A build ends behind the last key, or in one of them, by induction on the keys that are left. -/
theorem BuildsKeys.progress {entries : List (Key × Model)} {r : Except Abort Unit}
    (h : BuildsKeys mode scratch entries w r w') (hord : w.modelsByKey.Ordered)
    (hw : w.Progress done done done) (hkeys : w.keys = done ++ entries.map (·.1)) :
    ∃ served captured placed, w'.Progress served captured placed ∧ (r = .ok () → served = w.keys) := by
  induction h generalizing done with
  | nil =>
    rw [List.map_nil, List.append_nil] at hkeys
    exact ⟨_, _, _, hw, fun _ => hkeys.symm⟩
  | @stop key m rest w w' x hkey =>
    have hnext : done ++ [key] <+: w.keys := ⟨rest.map (·.1), by rw [hkeys]; simp⟩
    obtain ⟨captured, placed, hw'⟩ := hkey.progress_of_error hord hw hnext
    exact ⟨_, _, _, hw', fun h => nomatch h⟩
  | @cons key m rest w w₁ w' r hkey _ ih =>
    -- The next key finds all three tables filled up to this one.
    have hnext : done ++ [key] <+: w.keys := ⟨rest.map (·.1), by rw [hkeys]; simp⟩
    have hsame := hkey.retains.keys_eq
    have hw₁ := hkey.progress_of_ok hord hw hnext
    rw [← hsame]
    refine ih (hkey.retains.modelsByKey ▸ hord) hw₁ ?_
    rw [hsame, hkeys, List.map_cons, List.append_assoc, List.singleton_append]

/-- Nothing is filled before the build. -/
theorem Bare.progress (hw : w.Bare) : w.Progress [] [] [] where
  executors := by rw [hw.executors]; rfl
  graphs := by rw [hw.graphs]; rfl
  bindings name := by rw [hw.bindings]; exact Iff.rfl
  served_le := List.prefix_rfl
  captured_le := List.prefix_rfl
  placed_le := List.nil_prefix
  next := Nat.zero_le _

theorem Builds.progress {r : Except Abort Unit} (hreg : w.Registry)
    (hbare : w.phase = .registering → w.Bare)
    (hw : ∃ served captured placed, w.Progress served captured placed) (h : Builds w r w') :
    ∃ served captured placed, w'.Progress served captured placed ∧ (r = .ok () → served = w.keys) := by
  cases h with
  | again _ =>
    obtain ⟨_, _, _, hw⟩ := hw
    exact ⟨_, _, _, hw, fun h => nomatch h⟩
  | empty hp hempty =>
    exact ⟨_, _, _, (hbare hp).progress.congr rfl rfl rfl rfl, fun _ => (hreg.keys_eq_nil hempty).symm⟩
  | noStack hp _ _ =>
    exact ⟨_, _, _, (hbare hp).progress.congr rfl rfl rfl rfl, fun h => nomatch h⟩
  | noActivations hp _ _ _ =>
    exact ⟨_, _, _, (hbare hp).progress.congr rfl rfl rfl rfl, fun h => nomatch h⟩
  | @stopped s a d d' x w' hp _ _ _ hkeys =>
    have hw : (w.furnished s a d d').Progress [] [] [] := (hbare hp).progress.congr rfl rfl rfl rfl
    exact hkeys.progress hreg.ordered hw rfl
  | @finished s a d d' w' hp _ _ _ hkeys =>
    have hw : (w.furnished s a d d').Progress [] [] [] := (hbare hp).progress.congr rfl rfl rfl rfl
    obtain ⟨_, _, _, hw', hall⟩ := hkeys.progress hreg.ordered hw rfl
    exact ⟨_, _, _, hw'.congr rfl rfl rfl rfl, hall⟩

/-- It is so however a workspace came about. -/
theorem Reachable.progress (hw : w.Reachable held) :
    ∃ served captured placed, w.Progress served captured placed := by
  refine hw.induct (I := fun w => ∃ served captured placed, w.Progress served captured placed)
    (fun d g _ => ?_) (fun _ w name m n r hw hcheck _ _ => ?_) (fun _ w hw hprogress => ?_)
    (fun w d _ hprogress => ?_) (fun w hprogress => ?_)
  · exact ⟨_, _, _, (bare_ofDevice d g).progress⟩
  · -- There may be a new key, but nothing is filled as long as registration is open.
    have hbare := hw.bare (checkRegistration_eq_ok_iff.1 hcheck).1
    exact ⟨_, _, _, (hbare.enroll _ _ _ _ _).progress⟩
  · obtain ⟨_, _, _, hw', -⟩ := (build_builds w).progress hw.registry hw.bare hprogress
    exact ⟨_, _, _, hw'⟩
  · obtain ⟨_, _, _, hw'⟩ := hprogress
    exact ⟨_, _, _, hw'.congr rfl rfl rfl rfl⟩
  · obtain ⟨_, _, _, hw'⟩ := hprogress
    exact ⟨_, _, _, hw'.congr rfl rfl rfl rfl⟩

/-! ## After the build -/

/-- If all keys have executors, the other tables cannot be behind. -/
theorem Progress.eq_keys (hw : w.Progress w.keys captured placed) :
    captured = w.keys ∧ placed = w.keys := by
  have hcaptured := hw.captured_le.trans hw.placed_le
  exact ⟨hcaptured.eq_of_length_le hw.served_le.length_le,
    hw.placed_le.eq_of_length_le (hw.served_le.trans hw.captured_le).length_le⟩

/-- After a build that came to its end, and whatever is asked then, all keys are built. -/
theorem Reachable.progress_after (hw : w.Reachable held) (hok : w.build.1 = .ok ()) (ls : Ledgers)
    (qs : List Request) : (w.build.2.after ls qs).2.Progress w.keys w.keys w.keys := by
  have hbuilds := build_builds w
  have hkeeps := after_keeps hbuilds.phase_eq ls qs
  obtain ⟨served, captured, placed, hw', hall⟩ :=
    hbuilds.progress hw.registry hw.bare hw.progress
  have hkeys := hbuilds.retains.keys_eq
  obtain rfl : served = w.build.2.keys := (hall hok).trans hkeys.symm
  obtain ⟨rfl, rfl⟩ := hw'.eq_keys
  rw [← hkeys]
  exact hw'.congr hkeeps.keys_eq hkeeps.executors hkeeps.graphs hkeeps.bindings

/-! ## Numbers and lookups -/

/-- How far a build came, in numbers of keys. -/
theorem Progress.counts (hw : w.Progress served captured placed) :
    ∃ j i, j ≤ w.keys.length ∧ w.executors.keys = w.keys.take j ∧
      (w.graphs.keys = w.keys.take j ∨ j + 1 ≤ w.keys.length ∧ w.graphs.keys = w.keys.take (j + 1)) ∧
      w.graphs.size ≤ i ∧ i ≤ w.graphs.size + 1 ∧ i ≤ w.keys.length ∧
      ∀ name, name ∈ w.bindings.keys ↔ name ∈ (w.keys.take i).map Key.name := by
  have hcaptured := hw.captured_le.trans hw.placed_le
  have htake {l : List Key} (hl : l <+: w.keys) : w.keys.take l.length = l :=
    (List.prefix_iff_eq_take.1 hl).symm
  have hsize : w.graphs.size = captured.length := by
    rw [← hw.graphs, Table.keys, List.length_map, Table.size]
  have hle := hw.served_le.length_le
  have hle' := hw.captured_le.length_le
  have hle'' := hw.placed_le.length_le
  have hnext := hw.next
  refine ⟨served.length, placed.length, by omega, ?served, ?captured, by omega, by omega, hle'', ?placed⟩
  case served => rw [hw.executors, htake (hw.served_le.trans hcaptured)]
  case captured =>
    rw [hw.graphs]
    rcases Nat.eq_or_lt_of_le hle with heq | hlt
    · exact .inl (by rw [heq, htake hcaptured])
    · have hmore : served.length + 1 = captured.length := by omega
      exact .inr ⟨by omega, by rw [hmore, htake hcaptured]⟩
  case placed =>
    intro name
    rw [hw.bindings, htake hw.placed_le]

theorem isAvailable_iff : w.isAvailable key = true ↔ ∃ e, w.executor key = .ok e := by
  simp only [isAvailable, Table.has, Option.isSome_iff_exists, executor_eq_ok_iff]

theorem Reachable.mem_keys_of_executor (hw : w.Reachable held) {e : Executor}
    (he : w.executor key = .ok e) : key ∈ w.keys := by
  obtain ⟨served, captured, placed, hprogress⟩ := hw.progress
  have hkey : key ∈ w.executors.keys := Table.mem_keys_iff.2 ⟨e, executor_eq_ok_iff.1 he⟩
  rw [hprogress.executors] at hkey
  exact ((hprogress.served_le.trans hprogress.captured_le).trans hprogress.placed_le).subset hkey

/-- What a build filled is a beginning of the registered keys, which are in the order of the bytes
    of their names, and then of their batch sizes. The first `j` keys have executors; these keys, or
    one more, have graphs; and the names with tensors are those of the first `i` keys, which are as
    many as there are graphs, or one more. Before any build there is nothing of all this, and after
    a build that came to its end there is all of it, whatever is asked besides. A key is available
    exactly if an executor is served for it, and then it is registered. -/
theorem built_keys_prefix (hw : w.Reachable held) :
    w.keys.Pairwise (fun k k' => Text.utf8 k.name < Text.utf8 k'.name ∨
        k.name = k'.name ∧ k.batchSize < k'.batchSize) ∧
      (∃ j i, j ≤ w.keys.length ∧ w.executors.keys = w.keys.take j ∧
        (w.graphs.keys = w.keys.take j ∨ j + 1 ≤ w.keys.length ∧ w.graphs.keys = w.keys.take (j + 1)) ∧
        w.graphs.size ≤ i ∧ i ≤ w.graphs.size + 1 ∧ i ≤ w.keys.length ∧
        ∀ name, name ∈ w.bindings.keys ↔ name ∈ (w.keys.take i).map Key.name) ∧
      (w.phase = .registering → ∀ ls ls' w' qs, .build ∉ qs → w.after ls qs = (ls', w') →
        w'.phase = .registering ∧ w'.executors = {} ∧ w'.graphs = {} ∧ w'.bindings = {}) ∧
      (w.build.1 = .ok () → ∀ ls ls' w' qs, w.build.2.after ls qs = (ls', w') →
        w'.keys = w.keys ∧ w'.executors.keys = w.keys ∧ w'.graphs.keys = w.keys ∧
          ∀ name, name ∈ w'.bindings.keys ↔ name ∈ w'.models.keys) ∧
      ∀ key, (w.isAvailable key = true ↔ ∃ e, w.executor key = .ok e) ∧
        (w.isAvailable key = true → key ∈ w.keys) := by
  obtain ⟨served, captured, placed, hprogress⟩ := hw.progress
  refine ⟨hw.registry.ordered.imp Key.lt_iff_utf8.1, hprogress.counts, ?before, ?after,
    fun key => ⟨isAvailable_iff, fun h => ?available⟩⟩
  case before =>
    intro hp ls ls' w' qs hqs hafter
    obtain ⟨hp', hbare⟩ := after_bare hqs ls hp (hw.bare hp)
    rw [hafter] at hp' hbare
    exact ⟨hp', hbare.executors, hbare.graphs, hbare.bindings⟩
  case after =>
    intro hok ls ls' w' qs hafter
    have hcomplete := hw.progress_after hok ls qs
    have hkeeps := after_keeps (build_builds w).phase_eq ls qs
    have hretains := (build_builds w).retains
    rw [hafter] at hcomplete hkeeps
    refine ⟨hkeeps.keys_eq.trans hretains.keys_eq, hcomplete.executors, hcomplete.graphs,
      fun name => ?_⟩
    -- The names with tensors are those of all keys, and these are all names.
    rw [hcomplete.bindings, hkeeps.models, hretains.models, hw.mem_models_iff]
  case available =>
    obtain ⟨e, he⟩ := isAvailable_iff.1 h
    exact hw.mem_keys_of_executor he

/-- Of these four keys, the last one was given up when its tensors had been placed. -/
theorem refused_built_keys_prefix :
    refused.build.2.Reachable [] ∧
      refused.build.2.keys = [⟨"a", 1⟩, ⟨"a", 4⟩, ⟨"b", 2⟩, ⟨"z", 1⟩] ∧
      refused.build.2.bindings.keys = ["a", "b", "z"] ∧ refused.build.2.graphs.size = 3 ∧
      (∃ j i, refused.build.2.executors.keys = refused.build.2.keys.take j ∧ 3 ≤ i ∧ i ≤ 4 ∧
        ("z" ∈ ["a", "b", "z"] ↔ "z" ∈ (refused.build.2.keys.take i).map Key.name)) ∧
      refused.executors = {} ∧ sample.build.1 = .ok () ∧
      sample.build.2.executors.keys = sample.keys := by
  have hw : refused.build.2.Reachable [] := refused_reachable.build
  have hkeys : refused.build.2.keys = [⟨"a", 1⟩, ⟨"a", 4⟩, ⟨"b", 2⟩, ⟨"z", 1⟩] := by decide +kernel
  have hnames : refused.build.2.bindings.keys = ["a", "b", "z"] := by decide +kernel
  have hsize : refused.build.2.graphs.size = 3 := by decide +kernel
  have hok : sample.build.1 = .ok () := by decide +kernel
  obtain ⟨-, ⟨j, i, -, hexec, -, hle, hle', -, hbind⟩, -⟩ := built_keys_prefix hw
  obtain ⟨-, -, hbefore, -⟩ := built_keys_prefix refused_reachable
  obtain ⟨-, -, -, hafter, -⟩ := built_keys_prefix sample_reachable
  rw [hsize] at hle hle'
  have hphase : refused.phase = .registering := by decide +kernel
  obtain ⟨-, hempty, -⟩ :=
    hbefore hphase (fun _ => {}) _ refused [] List.not_mem_nil (after_nil _ _)
  obtain ⟨-, hfull, -⟩ := hafter hok (fun _ => {}) _ sample.build.2 [] (after_nil _ _)
  have hz := hbind "z"
  rw [hnames] at hz
  exact ⟨hw, hkeys, hnames, hsize, ⟨j, i, hexec, hle, hle', hz⟩, hempty, hok, hfull⟩

end GraphReplay.Workspace
