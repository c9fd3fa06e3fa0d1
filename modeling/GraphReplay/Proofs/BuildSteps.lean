import GraphReplay.Proofs.Procedure
import GraphReplay.Workspace.Build

/-!
# How a build can go

Every way in which a build and its parts can end, with what it leaves behind.
A build can be given up at any of its device calls, at a tensor that does not
fit and at a launch that is refused; each of these ends is one constructor here,
and each invariant of the build is shown by going through them.

* `Places`: the tensors of a name are known, are laid out, or do not fit;
* `Captures`: what becomes of the device in one capture;
* `BuildsKey`, `BuildsKeys`: one key, and the keys in turn up to the first abort;
* `Builds`: the whole of it.

`build_builds` says that these are all.
-/

namespace GraphReplay.Workspace

open Procedure

/-- How the tensors of a name can be placed. -/
inductive Places (name : String) (m : Model) (w : Workspace) :
    Except Abort (List Address) → Workspace → Prop
  /-- They were placed for an earlier key. -/
  | known {ps : List Address} : w.bindings.find? name = some ps → Places name m w (.ok ps) w
  | laid {s s' : BindingStack} {ps : List Address} : w.bindings.find? name = none →
      w.stack = some s → s.layOut m = (.ok ps, s') →
      Places name m w (.ok ps) { w with stack := some s', bindings := w.bindings.insert name ps }
  | unlaid {s s' : BindingStack} {f : Failure StackError} : w.bindings.find? name = none →
      w.stack = some s → s.layOut m = (.error f, s') →
      Places name m w (.error (.ofFailure (.stack name) f)) { w with stack := some s' }
  | stackless {d : Defect} : w.bindings.find? name = none → w.stack = none →
      Places name m w (.error (.defect d)) w

/-- Tensors are placed without the device. -/
theorem Places.device_eq {name : String} {m : Model} {w w' : Workspace}
    {r : Except Abort (List Address)} (h : Places name m w r w') : w'.device = w.device := by
  cases h <;> rfl

/-- What an abandoned capture ends with after a launch was refused, and the device after it. -/
def abandoned (d : Device) (name : String) (e : ModelError) : Abort × Device :=
  match d.endCapture with
  | (.ok g, d') => (.fatal (.model name e), (d'.destroyGraph g).2)
  | (.error (.error _), d') => (.fatal (.model name e), d')
  | (.error (.defect x), d') => (.defect x, d')

/-- What can become of a device in the capture of one launch. -/
inductive Captures (mode : CaptureMode) (key : Key) (c : Context) (ps : List Address) (d : Device) :
    Except Abort Graph → Device → Prop
  | notBegun {f : Failure DeviceError} {d' : Device} : d.beginCapture mode = (.error f, d') →
      Captures mode key c ps d (.error (.ofFailure (.device .beginCapture) f)) d'
  | refused {d₁ : Device} {e : ModelError} : d.beginCapture mode = (.ok (), d₁) →
      c.operation key.batchSize ps = .error e →
      Captures mode key c ps d (.error (abandoned d₁ key.name e).1) (abandoned d₁ key.name e).2
  | notEnded {d₁ d' : Device} {op : Op} {f : Failure DeviceError} :
      d.beginCapture mode = (.ok (), d₁) → c.operation key.batchSize ps = .ok op →
      (d₁.enqueue op).endCapture = (.error f, d') →
      Captures mode key c ps d (.error (.ofFailure (.device .endCapture) f)) d'
  | captured {d₁ d' : Device} {op : Op} {g : Graph} :
      d.beginCapture mode = (.ok (), d₁) → c.operation key.batchSize ps = .ok op →
      (d₁.enqueue op).endCapture = (.ok g, d') → Captures mode key c ps d (.ok g) d'

/-- The workspace with the context of a key's name at its scratch memory. -/
def prepared (w : Workspace) (key : Key) (c : Context) (scratch : Address) : Workspace :=
  { w.tell (.building key) with contexts := w.contexts.insert key.name (c.setScratch scratch) }

/-- The workspace with a graph to be kept, its stack free again. -/
def keeping (w : Workspace) (key : Key) (g : Graph) (d : Device) : Workspace :=
  { w with graphs := w.graphs.insert key g, stack := w.stack.map BindingStack.reset, device := d }

/-- How the build of one key can go. -/
inductive BuildsKey (mode : CaptureMode) (scratch : Address) (key : Key) (m : Model) (w : Workspace) :
    Except Abort Unit → Workspace → Prop
  | contextless {d : Defect} : w.contexts.find? key.name = none →
      BuildsKey mode scratch key m w (.error (.defect d)) (w.tell (.building key))
  | unplaced {c : Context} {a : Abort} {w' : Workspace} : w.contexts.find? key.name = some c →
      Places key.name m (w.prepared key c scratch) (.error a) w' →
      BuildsKey mode scratch key m w (.error a) w'
  | uncaptured {c : Context} {ps : List Address} {w₁ : Workspace} {a : Abort} {d : Device} :
      w.contexts.find? key.name = some c →
      Places key.name m (w.prepared key c scratch) (.ok ps) w₁ →
      Captures mode key (c.setScratch scratch) ps w₁.device (.error a) d →
      BuildsKey mode scratch key m w (.error a) { w₁ with device := d }
  | uninstantiated {c : Context} {ps : List Address} {w₁ : Workspace} {g : Graph} {d d' : Device}
      {f : Failure DeviceError} : w.contexts.find? key.name = some c →
      Places key.name m (w.prepared key c scratch) (.ok ps) w₁ →
      Captures mode key (c.setScratch scratch) ps w₁.device (.ok g) d →
      d.instantiate g = (.error f, d') →
      BuildsKey mode scratch key m w (.error (.ofFailure (.device .instantiate) f))
        (w₁.keeping key g d')
  | built {c : Context} {ps : List Address} {w₁ : Workspace} {g : Graph} {d d' : Device}
      {e : Executor} : w.contexts.find? key.name = some c →
      Places key.name m (w.prepared key c scratch) (.ok ps) w₁ →
      Captures mode key (c.setScratch scratch) ps w₁.device (.ok g) d →
      d.instantiate g = (.ok e, d') →
      BuildsKey mode scratch key m w (.ok ())
        { w₁.keeping key g d' with executors := w₁.executors.insert key e }

/-- How the build of some keys in turn can go. -/
inductive BuildsKeys (mode : CaptureMode) (scratch : Address) :
    List (Key × Model) → Workspace → Except Abort Unit → Workspace → Prop
  | nil {w : Workspace} : BuildsKeys mode scratch [] w (.ok ()) w
  | stop {key : Key} {m : Model} {rest : List (Key × Model)} {w w' : Workspace} {a : Abort} :
      BuildsKey mode scratch key m w (.error a) w' →
      BuildsKeys mode scratch ((key, m) :: rest) w (.error a) w'
  | cons {key : Key} {m : Model} {rest : List (Key × Model)} {w w₁ w' : Workspace}
      {r : Except Abort Unit} : BuildsKey mode scratch key m w (.ok ()) w₁ →
      BuildsKeys mode scratch rest w₁ r w' → BuildsKeys mode scratch ((key, m) :: rest) w r w'

/-- The workspace with registration closed. -/
def closed (w : Workspace) : Workspace := { w with phase := .built }

/-- The workspace with its binding stack. -/
def withStack (w : Workspace) (s : BindingStack) (d : Device) : Workspace :=
  { w.tell (.stackAllocated s.base w.plan.stack) with stack := some s, device := d }

/-- The workspace with its activation space. -/
def withActivations (w : Workspace) (a : ActivationSpace) (d : Device) : Workspace :=
  { w.tell (.activationsAllocated a.base w.plan.activations) with activations := some a, device := d }

/-- The workspace with both its allocations, as the build of its keys finds it. -/
def furnished (w : Workspace) (s : BindingStack) (a : ActivationSpace) (d d' : Device) : Workspace :=
  ((w.closed.withStack s d).withActivations a d').tell (.captureMode d'.captureMode)

/-- How a build can go. -/
inductive Builds (w : Workspace) : Except Abort Unit → Workspace → Prop
  | again : w.phase = .built → Builds w (.error (.fatal .alreadyBuilt)) w
  | empty : w.phase = .registering → w.models.entries.isEmpty →
      Builds w (.ok ()) (w.closed.tell .nothingRegistered)
  | noStack {f : Failure DeviceError} {d : Device} : w.phase = .registering →
      ¬w.models.entries.isEmpty → BindingStack.create w.device w.plan.stack = (.error f, d) →
      Builds w (.error (.ofFailure (.device .allocateStack) f)) { w.closed with device := d }
  | noActivations {s : BindingStack} {f : Failure DeviceError} {d d' : Device} :
      w.phase = .registering → ¬w.models.entries.isEmpty →
      BindingStack.create w.device w.plan.stack = (.ok s, d) →
      ActivationSpace.create d w.plan.activations = (.error f, d') →
      Builds w (.error (.ofFailure (.device .allocateActivations) f))
        { w.closed.withStack s d with device := d' }
  | stopped {s : BindingStack} {a : ActivationSpace} {d d' : Device} {e : Abort} {w' : Workspace} :
      w.phase = .registering → ¬w.models.entries.isEmpty →
      BindingStack.create w.device w.plan.stack = (.ok s, d) →
      ActivationSpace.create d w.plan.activations = (.ok a, d') →
      BuildsKeys d'.captureMode a.base w.modelsByKey.entries
        (w.furnished s a d d') (.error e) w' →
      Builds w (.error e) w'
  | finished {s : BindingStack} {a : ActivationSpace} {d d' : Device} {w' : Workspace} :
      w.phase = .registering → ¬w.models.entries.isEmpty →
      BindingStack.create w.device w.plan.stack = (.ok s, d) →
      ActivationSpace.create d w.plan.activations = (.ok a, d') →
      BuildsKeys d'.captureMode a.base w.modelsByKey.entries
        (w.furnished s a d d') (.ok ()) w' →
      Builds w (.ok ()) (w'.tell (.built w'.executors.size w'.models.size w'.plan))

/-! ## These are all the ways -/

section Entries

variable {κ α : Type} [DecidableEq κ] (table : Workspace → Table κ α) {k : κ} {w : Workspace}

theorem entryOf_on_some (expectation : String) {a : α} (h : (table w).find? k = some a) :
    (entryOf table expectation k).on w = (.ok a, w) := by
  rw [entryOf, on_bind_ok (on_get w)]
  simp only [h]
  rfl

theorem entryOf_on_none (expectation : String) (h : (table w).find? k = none) :
    (entryOf table expectation k).on w = (.error (.defect (.broken expectation)), w) := by
  rw [entryOf, on_bind_ok (on_get w)]
  simp only [h]
  rfl

end Entries

/-- The tensors of a name are found once they are laid out. -/
theorem placeBindings_on (name : String) (m : Model) (w : Workspace) :
    Places name m w ((placeBindings name m).on w).1 ((placeBindings name m).on w).2 := by
  rw [placeBindings, layBindings, bind_assoc, on_bind_ok (on_get w)]
  cases hb : w.bindings.find? name with
  | some ps =>
    have hentry := entryOf_on_some (·.bindings) indexed hb
    rw [on_bind_ok (on_pure () w), hentry]
    exact .known hb
  | none =>
    cases hs : w.stack with
    | none => exact .stackless hb hs
    | some s =>
      rcases hl : s.layOut m with ⟨f | ps, s'⟩
      · simp only [hl]
        exact .unlaid hb hs hl
      · have hanswer : (Except.ok ps).mapError (Abort.ofFailure (.stack name)) = .ok ps := rfl
        simp only [hl, bind_assoc, hanswer]
        rw [on_bind_ok (on_modify _ w), on_bind_ok (on_liftExcept (.ok ps) _),
          on_bind_ok (on_modify _ _)]
        rw [entryOf_on_some (·.bindings) indexed (Table.find?_insert_self w.bindings name ps)]
        exact .laid hb hs hl

theorem abandonCapture_on {α β : Type} (name : String) (e : ModelError) (f : α → Procedure β)
    (w : Workspace) :
    (abandonCapture >>= fun _ => fail (.model name e) >>= f).on w =
      (.error (abandoned w.device name e).1, { w with device := (abandoned w.device name e).2 }) := by
  rw [abandoned, abandonCapture, bind_assoc, on_bind_ok (on_get w)]
  rcases w.device.endCapture with ⟨(_ | d) | g, d'⟩ <;> rfl

theorem capture_on (mode : CaptureMode) (key : Key) (c : Context) (ps : List Address) (w : Workspace) :
    ∃ r d, Captures mode key c ps w.device r d ∧
      (capture mode key c ps).on w = (r, { w with device := d }) := by
  rw [capture]
  rcases hb : w.device.beginCapture mode with ⟨f | ⟨⟩, d₁⟩
  · exact ⟨_, _, .notBegun hb, on_bind_error (on_callDevice_error hb)⟩
  · rw [on_bind_ok (on_callDevice_ok hb)]
    cases ho : c.operation key.batchSize ps with
    | error e => exact ⟨_, _, .refused hb ho, abandonCapture_on key.name e _ _⟩
    | ok op =>
      rcases he : (d₁.enqueue op).endCapture with ⟨f | g, d'⟩
      · exact ⟨_, _, .notEnded hb ho he, (on_bind_ok (on_modify _ _)).trans (on_callDevice_error he)⟩
      · exact ⟨_, _, .captured hb ho he, (on_bind_ok (on_modify _ _)).trans (on_callDevice_ok he)⟩

theorem prepareContext_on {w : Workspace} {key : Key} {c : Context} (scratch : Address)
    (hc : w.contexts.find? key.name = some c) :
    (prepareContext key.name scratch).on (w.tell (.building key)) =
      (.ok (c.setScratch scratch), w.prepared key c scratch) := by
  rw [prepareContext, on_bind_ok (entryOf_on_some (w := w.tell (.building key)) (·.contexts) _ hc)]
  rfl

/-- The build of a key goes in one of the ways of `BuildsKey`. -/
theorem buildKey_on (mode : CaptureMode) (scratch : Address) (key : Key) (m : Model) (w : Workspace) :
    BuildsKey mode scratch key m w ((buildKey mode scratch key m).on w).1
      ((buildKey mode scratch key m).on w).2 := by
  rw [buildKey, on_bind_ok (on_note _ w)]
  cases hc : w.contexts.find? key.name with
  | none =>
    have h : (prepareContext key.name scratch).on (w.tell (.building key)) =
        (.error (.defect (.broken "every registered name has an execution context")),
          w.tell (.building key)) := by
      rw [prepareContext, on_bind_error (entryOf_on_none (w := w.tell (.building key)) (·.contexts) _ hc)]
    rw [on_bind_error h]
    exact .contextless hc
  | some c =>
    rw [on_bind_ok (prepareContext_on scratch hc)]
    have hplaces := placeBindings_on key.name m (w.prepared key c scratch)
    rcases hp : (placeBindings key.name m).on (w.prepared key c scratch) with ⟨a | ps, w₁⟩
    · rw [hp] at hplaces
      rw [on_bind_error hp]
      exact .unplaced hc hplaces
    · rw [hp] at hplaces
      rw [on_bind_ok hp]
      obtain ⟨r, d, hcaptures, hcap⟩ := capture_on mode key (c.setScratch scratch) ps w₁
      cases r with
      | error a =>
        rw [on_bind_error hcap]
        exact .uncaptured hc hplaces hcaptures
      | ok g =>
        have hkeep : (modify fun w : Workspace => { w with
            graphs := w.graphs.insert key g
            stack := w.stack.map BindingStack.reset } : Procedure Unit).on { w₁ with device := d } =
              (.ok (), w₁.keeping key g d) := rfl
        have hkept := entryOf_on_some (w := w₁.keeping key g d) (·.graphs) indexed
          (Table.find?_insert_self w₁.graphs key g)
        rw [on_bind_ok hcap, on_bind_ok hkeep, on_bind_ok hkept]
        rcases hi : d.instantiate g with ⟨f | e, d'⟩
        · rw [on_bind_error (on_callDevice_error hi)]
          exact .uninstantiated hc hplaces hcaptures hi
        · rw [on_bind_ok (on_callDevice_ok hi), on_modify]
          exact .built hc hplaces hcaptures hi

theorem buildKeys_on (mode : CaptureMode) (scratch : Address) (entries : List (Key × Model))
    (w : Workspace) :
    BuildsKeys mode scratch entries w ((buildKeys mode scratch entries).on w).1
      ((buildKeys mode scratch entries).on w).2 := by
  induction entries generalizing w with
  | nil => exact .nil
  | cons entry entries ih =>
    obtain ⟨key, m⟩ := entry
    have hkey := buildKey_on mode scratch key m w
    rw [buildKeys]
    rcases hb : (buildKey mode scratch key m).on w with ⟨a | ⟨⟩, w₁⟩
    · rw [hb] at hkey
      rw [on_bind_error hb]
      exact .stop hkey
    · rw [hb] at hkey
      rw [on_bind_ok hb]
      exact .cons hkey (ih w₁)

theorem allocateStack_on_ok {w : Workspace} {s : BindingStack} {d : Device}
    (h : BindingStack.create w.device w.plan.stack = (.ok s, d)) :
    allocateStack.on w = (.ok (), w.withStack s d) := by
  rw [allocateStack, on_bind_ok (on_get w), on_bind_ok (on_callDevice_ok h), on_bind_ok (on_note _ _),
    on_modify]
  rfl

theorem allocateStack_on_error {w : Workspace} {f : Failure DeviceError} {d : Device}
    (h : BindingStack.create w.device w.plan.stack = (.error f, d)) :
    allocateStack.on w = (.error (.ofFailure (.device .allocateStack) f), { w with device := d }) := by
  rw [allocateStack, on_bind_ok (on_get w), on_bind_error (on_callDevice_error h)]

theorem allocateActivations_on_ok {w : Workspace} {a : ActivationSpace} {d : Device}
    (h : ActivationSpace.create w.device w.plan.activations = (.ok a, d)) :
    allocateActivations.on w = (.ok a.base, w.withActivations a d) := by
  rw [allocateActivations, on_bind_ok (on_get w), on_bind_ok (on_callDevice_ok h),
    on_bind_ok (on_note _ _), on_bind_ok (on_modify _ _)]
  rfl

theorem allocateActivations_on_error {w : Workspace} {f : Failure DeviceError} {d : Device}
    (h : ActivationSpace.create w.device w.plan.activations = (.error f, d)) :
    allocateActivations.on w =
      (.error (.ofFailure (.device .allocateActivations) f), { w with device := d }) := by
  rw [allocateActivations, on_bind_ok (on_get w), on_bind_error (on_callDevice_error h)]

theorem buildRegistered_on (w : Workspace) (hp : w.phase = .registering)
    (hne : ¬w.models.entries.isEmpty) :
    Builds w (buildRegistered.on w.closed).1 (buildRegistered.on w.closed).2 := by
  rw [buildRegistered]
  rcases hs : BindingStack.create w.device w.plan.stack with ⟨f | s, d⟩
  · rw [on_bind_error (allocateStack_on_error (w := w.closed) hs)]
    exact .noStack hp hne hs
  · rw [on_bind_ok (allocateStack_on_ok (w := w.closed) hs)]
    rcases ha : ActivationSpace.create d w.plan.activations with ⟨f | a, d'⟩
    · rw [on_bind_error (allocateActivations_on_error (w := w.closed.withStack s d) ha)]
      exact .noActivations hp hne hs ha
    · rw [on_bind_ok (allocateActivations_on_ok (w := w.closed.withStack s d) ha),
        on_bind_ok (on_get _), on_bind_ok (on_note _ _)]
      -- The loop reads its arguments from the workspace that it starts in.
      generalize hw : (w.closed.withStack s d).withActivations a d' = w₁
      have hkeys := buildKeys_on w₁.device.captureMode a.base w₁.modelsByKey.entries
        (w₁.tell (.captureMode w₁.device.captureMode))
      rcases hb : (buildKeys w₁.device.captureMode a.base w₁.modelsByKey.entries).on
        (w₁.tell (.captureMode w₁.device.captureMode)) with ⟨e | ⟨⟩, w'⟩
      · rw [hb] at hkeys
        rw [on_bind_error hb]
        subst hw
        exact .stopped hp hne hs ha hkeys
      · rw [hb] at hkeys
        rw [on_bind_ok hb, on_bind_ok (on_get _), on_note]
        subst hw
        exact .finished hp hne hs ha hkeys

/-- There is no second build. -/
theorem build_of_built {w : Workspace} (hp : w.phase = .built) :
    w.build = (.error (.fatal .alreadyBuilt), w) := by
  rw [build, buildAll, on_bind_ok (on_get w), hp]
  rfl

/-- Every build goes in one of the ways of `Builds`. -/
theorem build_builds (w : Workspace) : Builds w w.build.1 w.build.2 := by
  rw [build, buildAll, on_bind_ok (on_get w)]
  cases hp : w.phase with
  | built => exact .again hp
  | registering =>
    rw [if_neg (by decide)]
    simp only [on_bind_ok (on_modify _ w), on_bind_ok (on_get _)]
    by_cases hne : w.models.entries.isEmpty
    · rw [if_pos hne, on_note]
      exact .empty hp hne
    · rw [if_neg hne]
      exact buildRegistered_on w hp hne

end GraphReplay.Workspace
