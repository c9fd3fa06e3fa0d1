import GraphReplay.Proofs.Effect

/-!
# The stream of a device

Whoever uses a device sees what is put on its stream, by `enqueue` and by each
launch that succeeds, and when captures begin and end (`Device.trace`). That is
enough to know the stream: what was issued while no capture was open ran, in this
order, and each capture holds what was issued since it was opened, be it recorded
one by one or by launches. Only a capture that a fault ends is lost.

* `Stretch`: an operation that ran, a capture that became a graph, or a lost one;
* `Recorded`: a trace falls into such stretches, and the device has what they
  leave; every request keeps this up (`Recorded.after`), so every run does
  (`Recorded.run`);
* `Effect.keeps_executor`: an executor stays until it is destroyed;
* `stream_is_faithful`: no operation is lost, doubled or out of turn.
-/

namespace GraphReplay

/-! ## Traces -/

/-- What can be seen of a stream. -/
inductive Moment
  | issued (op : Op)
  | opened
  /-- The open capture became a graph. -/
  | closed (g : Graph)
  /-- The open capture was ended, and there is no graph. -/
  | lost (f : Failure DeviceError)
  deriving DecidableEq, Repr

namespace Moment

/-- What was issued. -/
def op? : Moment → Option Op
  | .issued op => some op
  | _ => none

/-- What was issued while no capture was open; `capturing` if one is at the start. -/
def eager (capturing : Bool) : List Moment → List Op
  | [] => []
  | .issued op :: ms => if capturing then eager true ms else op :: eager false ms
  | .opened :: ms => eager true ms
  | .closed _ :: ms => eager false ms
  | .lost _ :: ms => eager false ms

/-- What is seen of a capture that is still open, if there is one. -/
def unfinished : Option (List Op) → List Moment
  | none => []
  | some ops => .opened :: ops.map .issued

theorem eager_issued (ops : List Op) (ms : List Moment) :
    eager true (ops.map .issued ++ ms) = eager true ms := by
  induction ops with
  | nil => rfl
  | cons op ops ih => exact ih

theorem filterMap_op?_issued (ops : List Op) : (ops.map issued).filterMap op? = ops := by
  induction ops with
  | nil => rfl
  | cons op ops ih => exact congrArg (op :: ·) ih

theorem filterMap_op?_capture (ops : List Op) {m : Moment} (hm : m.op? = none) :
    (.opened :: ops.map issued ++ [m]).filterMap op? = ops := by
  rw [List.cons_append, List.filterMap_cons_none rfl, List.filterMap_append, filterMap_op?_issued,
    List.filterMap_cons_none hm, List.filterMap_nil, List.append_nil]

theorem eager_unfinished (capture : Option (List Op)) : eager false (unfinished capture) = [] := by
  cases capture with
  | none => rfl
  | some ops =>
    rw [unfinished, eager, ← List.append_nil (ops.map issued), eager_issued, eager]

theorem filterMap_op?_unfinished (capture : Option (List Op)) :
    (unfinished capture).filterMap op? = capture.getD [] := by
  cases capture with
  | none => rfl
  | some ops => exact filterMap_op?_issued ops

end Moment

/-- A part of a trace: one operation that ran, or one capture that was ended. -/
inductive Stretch
  | ran (op : Op)
  | captured (g : Graph)
  | lost (ops : List Op) (f : Failure DeviceError)
  deriving DecidableEq, Repr

namespace Stretch

/-- What is seen of it. -/
def moments : Stretch → List Moment
  | .ran op => [.issued op]
  | .captured g => .opened :: g.ops.map .issued ++ [.closed g]
  | .lost ops f => .opened :: ops.map .issued ++ [.lost f]

/-- What was issued in it. -/
def ops : Stretch → List Op
  | .ran op => [op]
  | .captured g => g.ops
  | .lost ops _ => ops

/-- What ran of it. -/
def executed : Stretch → List Op
  | .ran op => [op]
  | _ => []

theorem eager_moments (s : Stretch) (ms : List Moment) :
    Moment.eager false (s.moments ++ ms) = s.executed ++ Moment.eager false ms := by
  cases s with
  | ran op => rfl
  | captured g => simp [moments, Moment.eager, Moment.eager_issued, executed]
  | lost ops f => simp [moments, Moment.eager, Moment.eager_issued, executed]

theorem eager_flatMap (ss : List Stretch) (ms : List Moment) :
    Moment.eager false (ss.flatMap moments ++ ms) =
      ss.flatMap executed ++ Moment.eager false ms := by
  induction ss with
  | nil => rfl
  | cons s ss ih =>
    rw [List.flatMap_cons, List.append_assoc, eager_moments, ih, List.flatMap_cons,
      List.append_assoc]

theorem filterMap_op?_moments (s : Stretch) : s.moments.filterMap Moment.op? = s.ops := by
  cases s with
  | ran op => rfl
  | captured g => exact Moment.filterMap_op?_capture g.ops rfl
  | lost ops f => exact Moment.filterMap_op?_capture ops rfl

theorem filterMap_op?_flatMap (ss : List Stretch) :
    (ss.flatMap moments).filterMap Moment.op? = ss.flatMap ops := by
  induction ss with
  | nil => rfl
  | cons s ss ih =>
    rw [List.flatMap_cons, List.filterMap_append, filterMap_op?_moments, ih, List.flatMap_cons]

end Stretch

namespace Device

/-- What is seen of a request, by what it asks and how it is answered. -/
def moments (d : Device) : Call → List Moment
  | .enqueue op => [.issued op]
  | .launch x =>
    match (d.launch x).1 with
    | .ok _ => x.ops.map .issued
    | .error _ => []
  | .beginCapture mode =>
    match (d.beginCapture mode).1 with
    | .ok _ => [.opened]
    | .error _ => []
  | .endCapture =>
    match d.endCapture.1 with
    | .ok g => [.closed g]
    | .error (.error .notCapturing) => []
    | .error f => [.lost f]
  | _ => []

/-- The requests that are about the stream. -/
def Call.onStream : Call → Bool
  | .beginCapture _ => true
  | .endCapture => true
  | .enqueue _ => true
  | .launch _ => true
  | _ => false

/-- What is seen of some requests in turn. -/
def trace (d : Device) : List Call → List Moment
  | [] => []
  | c :: cs => d.moments c ++ (d.after c).trace cs

variable {d d' : Device} {ms : List Moment} {ss : List Stretch} {ops : List Op} {c : Call}

/-! ## A trace in stretches -/

/-- The trace falls into the stretches and the open capture, and the device has what they leave. -/
structure Recorded (ms : List Moment) (ss : List Stretch) (d : Device) : Prop where
  moments : ms = ss.flatMap Stretch.moments ++ Moment.unfinished d.capture
  executed : d.executed = ss.flatMap Stretch.executed
  lost : ∀ ops f, .lost ops f ∈ ss →
    f = .error (.injected .endCapture) ∨ Word.limit ≤ d.lastHandle + 1

/-- Nothing is seen on the stream. -/
theorem Recorded.keep (h : Recorded ms ss d) (hcapture : d'.capture = d.capture)
    (hexecuted : d'.executed = d.executed) (hhandle : d.lastHandle ≤ d'.lastHandle) :
    Recorded (ms ++ []) ss d' where
  moments := by rw [List.append_nil, h.moments, hcapture]
  executed := hexecuted.trans h.executed
  lost ops f hf := (h.lost ops f hf).imp_right fun hlimit =>
    Nat.le_trans hlimit (Nat.succ_le_succ hhandle)

/-- A request that is not about the stream. -/
theorem Recorded.aside (h : Recorded ms ss d) (hd : Effect d c d') (hc : c.onStream = false) :
    Recorded (ms ++ []) ss d' := by
  cases hd with
  | slight => exact h.keep rfl rfl (Nat.le_refl _)
  | begun => cases hc
  | ended => cases hc
  | discarded => cases hc
  | enqueued => cases hc
  | instantiated => exact h.keep rfl rfl (Nat.le_succ _)
  | launched => cases hc
  | rested => exact h.keep rfl rfl (Nat.le_refl _)
  | destroyedExecutor => exact h.keep rfl rfl (Nat.le_refl _)
  | destroyedGraph => exact h.keep rfl rfl (Nat.le_refl _)

/-- Operations are put on the stream. -/
theorem Recorded.issue (h : Recorded ms ss d) (ops : List Op) :
    ∃ ss', Recorded (ms ++ ops.map .issued) ss' (d.issue ops) := by
  have hmoments := h.moments
  rw [Device.issue]
  cases hcapture : d.capture with
  | none =>
    have hissued : (ops.map Stretch.ran).flatMap Stretch.moments = ops.map .issued := by
      rw [List.flatMap_map, List.map_eq_flatMap]
      rfl
    have hran : (ops.map Stretch.ran).flatMap Stretch.executed = ops := by
      rw [List.flatMap_map]
      exact List.flatMap_singleton' ops
    rw [hcapture, Moment.unfinished, List.append_nil] at hmoments
    refine ⟨ss ++ ops.map .ran, ?_, ?_, fun ops' f hf => h.lost ops' f ?_⟩
    · rw [hmoments, List.flatMap_append, hissued]
      exact (List.append_nil _).symm
    · rw [List.flatMap_append, hran, h.executed]
    · simpa using hf
  | some recorded =>
    rw [hcapture] at hmoments
    refine ⟨ss, ?_, h.executed, h.lost⟩
    rw [hmoments, Moment.unfinished, Moment.unfinished, List.map_append, List.append_assoc,
      List.cons_append]

/-- A capture is opened. -/
theorem Recorded.open (h : Recorded ms ss d) (hcapture : d.capture = none) (mode : CaptureMode) :
    Recorded (ms ++ [.opened]) ss ({ d with capture := some [] }.record (.beginCapture mode)) where
  moments := by
    rw [h.moments, hcapture, Moment.unfinished, List.append_nil]
    rfl
  executed := h.executed
  lost := h.lost

/-- The open capture is ended. -/
theorem Recorded.close (h : Recorded ms ss d) (hcapture : d.capture = some ops) {s : Stretch}
    {m : Moment} (hs : s.moments = .opened :: ops.map .issued ++ [m]) (hran : s.executed = [])
    (hlost : ∀ ops f, .lost ops f = s →
      f = .error (.injected .endCapture) ∨ Word.limit ≤ d'.lastHandle + 1)
    (hclosed : d'.capture = none) (hexecuted : d'.executed = d.executed)
    (hhandle : d.lastHandle ≤ d'.lastHandle) : Recorded (ms ++ [m]) (ss ++ [s]) d' where
  moments := by
    rw [h.moments, hcapture, hclosed, List.flatMap_append, List.flatMap_singleton, hs,
      List.append_assoc, Moment.unfinished, Moment.unfinished, List.append_nil]
  executed := by
    rw [hexecuted, h.executed, List.flatMap_append, List.flatMap_singleton, hran, List.append_nil]
  lost ops f hf := by
    rcases List.mem_append.1 hf with hf | hf
    · exact (h.lost ops f hf).imp_right fun hlimit =>
        Nat.le_trans hlimit (Nat.succ_le_succ hhandle)
    · exact hlost ops f (List.mem_singleton.1 hf)

/-- Why an open capture can end without a graph. -/
theorem failure_of_endCapture {f : Failure DeviceError} (hcapture : d.capture = some ops)
    (h : d.endCapture = (.error f, d')) :
    f = .error (.injected .endCapture) ∨ f = .defect .addOverflow ∧ Word.limit ≤ d.lastHandle + 1 := by
  by_cases harmed : .endCapture ∈ d.armed
  · have hinjected : d.endCapture = (.error (.error (.injected .endCapture)),
        { d with capture := none }.disarm .endCapture) := by
      rw [endCapture, hcapture]
      exact if_pos harmed
    rw [hinjected] at h
    cases h
    exact .inl rfl
  · by_cases hlt : d.lastHandle + 1 < Word.limit
    · rw [endCapture_eq_ok_iff.2 ⟨ops, hcapture, harmed, hlt, rfl, rfl⟩] at h
      cases h
    · have hoverflow : d.endCapture = (.error (.defect .addOverflow), { d with capture := none }) := by
        rw [endCapture, hcapture]
        simp only [newHandle, Word.add, if_neg hlt]
        exact if_neg harmed
      rw [hoverflow] at h
      cases h
      exact .inr ⟨rfl, Nat.le_of_not_lt hlt⟩

theorem Recorded.endCapture (h : Recorded ms ss d) :
    ∃ ss', Recorded (ms ++ d.moments .endCapture) ss' d.endCapture.2 := by
  cases hcapture : d.capture with
  | none =>
    have hrefused : d.endCapture = (.error (.error .notCapturing), d) := by
      rw [Device.endCapture, hcapture]
    rw [Device.moments, hrefused]
    exact ⟨ss, h.keep rfl rfl (Nat.le_refl _)⟩
  | some ops =>
    rcases he : d.endCapture with ⟨f | g, d'⟩
    · have hfailure := failure_of_endCapture hcapture he
      have hmoments : d.moments .endCapture = [.lost f] := by
        rw [Device.moments, he]
        rcases hfailure with rfl | ⟨rfl, -⟩ <;> rfl
      obtain ⟨armed, rfl⟩ := endCapture_eq_error he
      rw [hmoments]
      refine ⟨_, h.close (s := .lost ops f) hcapture rfl rfl (fun _ _ hf => ?_) rfl rfl
        (Nat.le_refl _)⟩
      cases hf
      exact hfailure.imp_right And.right
    · have hmoments : d.moments .endCapture = [.closed g] := by rw [Device.moments, he]
      obtain ⟨ops', hcapture', -, -, rfl, rfl⟩ := endCapture_eq_ok_iff.1 he
      obtain rfl : ops' = ops := Option.some.inj (hcapture'.symm.trans hcapture)
      rw [hmoments]
      refine ⟨_, h.close (s := .captured ⟨d.lastHandle + 1, ops'⟩) hcapture rfl rfl (fun _ _ hf => ?_)
        rfl rfl (Nat.le_succ _)⟩
      cases hf

/-- Whatever is asked of the device. -/
theorem Recorded.after (h : Recorded ms ss d) (c : Call) :
    ∃ ss', Recorded (ms ++ d.moments c) ss' (d.after c) := by
  cases c with
  | enqueue op => exact h.issue [op]
  | endCapture => exact h.endCapture
  | launch x =>
    rw [Device.moments, Device.after]
    rcases hl : d.launch x with ⟨f | u, d'⟩
    · obtain ⟨armed, rfl⟩ := guarded_eq_error hl
      exact ⟨ss, h.keep rfl rfl (Nat.le_refl _)⟩
    · obtain ⟨-, -, rfl⟩ := launch_eq_ok_iff.1 hl
      have hrecord : Recorded ms ss (d.record (.launch x.id)) := ⟨h.moments, h.executed, h.lost⟩
      exact hrecord.issue x.ops
  | beginCapture mode =>
    rw [Device.moments, Device.after]
    rcases hb : d.beginCapture mode with ⟨f | u, d'⟩
    · obtain ⟨armed, rfl⟩ := guarded_eq_error hb
      exact ⟨ss, h.keep rfl rfl (Nat.le_refl _)⟩
    · obtain ⟨-, hcapture, rfl⟩ := beginCapture_eq_ok_iff.1 hb
      exact ⟨ss, h.open hcapture mode⟩
  | arm p => exact ⟨ss, h.aside (after_effect d (.arm p)) rfl⟩
  | instantiate g => exact ⟨ss, h.aside (after_effect d (.instantiate g)) rfl⟩
  | synchronize => exact ⟨ss, h.aside (after_effect d .synchronize) rfl⟩
  | destroyExecutor x => exact ⟨ss, h.aside (after_effect d (.destroyExecutor x)) rfl⟩
  | destroyGraph g => exact ⟨ss, h.aside (after_effect d (.destroyGraph g)) rfl⟩

theorem Recorded.run (h : Recorded ms ss d) (cs : List Call) :
    ∃ ss', Recorded (ms ++ d.trace cs) ss' (d.afterAll cs) := by
  induction cs generalizing ms ss d with
  | nil => exact ⟨ss, h.keep rfl rfl (Nat.le_refl _)⟩
  | cons c cs ih =>
    obtain ⟨ss', h'⟩ := h.after c
    rw [trace, ← List.append_assoc]
    exact ih h'

/-! ## Executors -/

/-- An executor stays live unless it is destroyed. -/
theorem Effect.keeps_executor (h : Effect d c d') {id : Nat} (hid : d.books.Has ⟨.executor, id⟩)
    (hc : ∀ x, c = .destroyExecutor x → x.id ≠ id) : d'.books.Has ⟨.executor, id⟩ := by
  cases h with
  | slight => exact hid
  | begun => exact hid
  | ended => exact hid
  | discarded => exact hid
  | enqueued => rwa [issue_books]
  | instantiated => exact List.mem_append_left _ hid
  | launched => rwa [issue_books]
  | rested => exact hid
  | @destroyedExecutor x _ =>
    exact has_without.2 ⟨hid, fun hx => hc x rfl (congrArg Handle.id hx).symm⟩
  | destroyedGraph => exact has_without.2 ⟨hid, fun hg => nomatch congrArg Handle.kind hg⟩

theorem afterAll_keeps_executor {cs : List Call} {id : Nat} (hid : d.books.Has ⟨.executor, id⟩)
    (hcs : ∀ x, .destroyExecutor x ∈ cs → x.id ≠ id) :
    (d.afterAll cs).books.Has ⟨.executor, id⟩ := by
  induction cs generalizing d with
  | nil => exact hid
  | cons c cs ih =>
    have hc (x : Executor) (hx : c = .destroyExecutor x) : x.id ≠ id :=
      hcs x (hx ▸ List.mem_cons_self)
    exact ih ((after_effect d c).keeps_executor hid hc) fun x hx =>
      hcs x (List.mem_cons_of_mem _ hx)

/-! ## The stream -/

/-- No operation on the stream is lost, doubled or out of turn, whatever is asked of the device. What
    ran is what was issued while no capture was open, in this order. The trace falls into what ran
    and the captures: each that became a graph holds what was issued since it was opened, and so
    does the one that is open, and the one that is ended next. What was issued is all in there;
    a capture is lost to a fault at its end only, unless the handle numbers ran out. An executor
    has the operations of its graph and issues them whenever it is launched, as long as it is not
    destroyed itself. -/
theorem stream_is_faithful {c : DeviceConfig} (hd : Device.create c = .ok d)
    (cs : List Call) :
    (d.afterAll cs).executed = Moment.eager false (d.trace cs) ∧
      (∃ ss : List Stretch, d.trace cs = ss.flatMap Stretch.moments ++ Moment.unfinished (d.afterAll cs).capture ∧
        (d.afterAll cs).executed = ss.flatMap Stretch.executed ∧
        (d.trace cs).filterMap Moment.op? =
          ss.flatMap Stretch.ops ++ (d.afterAll cs).capture.getD [] ∧
        ∀ ops f, .lost ops f ∈ ss →
          f = .error (.injected .endCapture) ∨ Word.limit ≤ (d.afterAll cs).lastHandle + 1) ∧
      (∀ g d', (d.afterAll cs).endCapture = (.ok g, d') →
        ∃ ms, d.trace cs = ms ++ .opened :: g.ops.map .issued) ∧
      ∀ g x d', (d.afterAll cs).instantiate g = (.ok x, d') → x.ops = g.ops ∧
        ∀ cs', (∀ y, .destroyExecutor y ∈ cs' → y.id ≠ x.id) → .launch ∉ (d'.afterAll cs').armed →
          (d'.afterAll cs').launch x =
            (.ok (), ((d'.afterAll cs').record (.launch x.id)).issue g.ops) := by
  obtain ⟨a, -, h⟩ := Failure.bind_eq_ok_iff.1 hd
  cases h
  have hnew : Recorded [] [] { alignment := a, relaxedCapture := c.relaxedCapture,
                               nextAddress := c.baseAddress } := ⟨rfl, rfl, nofun⟩
  obtain ⟨ss, hmoments, hexecuted, hlost⟩ := hnew.run cs
  rw [List.nil_append] at hmoments
  refine ⟨?_, ⟨ss, hmoments, hexecuted, ?_, hlost⟩, fun g d' he => ?_, fun g x d' hi => ?_⟩
  · rw [hexecuted, hmoments, Stretch.eager_flatMap, Moment.eager_unfinished, List.append_nil]
  · rw [hmoments, List.filterMap_append, Stretch.filterMap_op?_flatMap,
      Moment.filterMap_op?_unfinished]
  · obtain ⟨ops, hcapture, -, -, rfl, -⟩ := endCapture_eq_ok_iff.1 he
    exact ⟨_, by rw [hmoments, hcapture, Moment.unfinished]⟩
  · obtain ⟨-, -, -, rfl, rfl⟩ := instantiate_eq_ok_iff.1 hi
    refine ⟨rfl, fun cs' hcs' harmed => launch_eq_ok_iff.2 ⟨harmed, ?_, rfl⟩⟩
    exact afterAll_keeps_executor (List.mem_append_right _ (List.mem_singleton_self _)) hcs'

/-- Requests that launch inside a capture, begin a capture while one is open, and lose one to a
    fault. -/
def sampleUses : List Call :=
  [.enqueue ⟨"a", 1, []⟩, .beginCapture .relaxed, .enqueue ⟨"b", 1, []⟩, .endCapture,
    .instantiate ⟨1, [⟨"b", 1, []⟩]⟩, .beginCapture .relaxed, .enqueue ⟨"c", 1, []⟩,
    .launch ⟨2, [⟨"b", 1, []⟩]⟩, .beginCapture .global, .endCapture, .destroyGraph ⟨1, []⟩,
    .launch ⟨2, [⟨"b", 1, []⟩]⟩, .arm .endCapture, .beginCapture .relaxed, .enqueue ⟨"d", 1, []⟩,
    .endCapture, .beginCapture .global, .enqueue ⟨"e", 1, []⟩]

/-- The launch inside the capture is in the graph, the one outside of it ran, and only what the
    fault hit is gone. -/
theorem sampleUses_stream :
    sample.trace sampleUses =
        [.issued ⟨"a", 1, []⟩, .opened, .issued ⟨"b", 1, []⟩, .closed ⟨1, [⟨"b", 1, []⟩]⟩, .opened,
          .issued ⟨"c", 1, []⟩, .issued ⟨"b", 1, []⟩, .closed ⟨3, [⟨"c", 1, []⟩, ⟨"b", 1, []⟩]⟩,
          .issued ⟨"b", 1, []⟩, .opened, .issued ⟨"d", 1, []⟩,
          .lost (.error (.injected .endCapture)), .opened, .issued ⟨"e", 1, []⟩] ∧
      (sample.afterAll sampleUses).executed = [⟨"a", 1, []⟩, ⟨"b", 1, []⟩] ∧
      ∃ ms, sample.trace sampleUses = ms ++ .opened :: [.issued ⟨"e", 1, []⟩] := by
  obtain ⟨hexecuted, -, hend, -⟩ := stream_is_faithful
    (d := sample) (c := { alignment := 256, relaxedCapture := true, baseAddress := 1000 }) rfl
    sampleUses
  have htrace : Moment.eager false (sample.trace sampleUses) = [⟨"a", 1, []⟩, ⟨"b", 1, []⟩] := by
    decide +kernel
  exact ⟨by decide +kernel, hexecuted.trans htrace,
    hend ⟨4, [⟨"e", 1, []⟩]⟩ (sample.afterAll sampleUses).endCapture.2 (by decide +kernel)⟩

end Device

end GraphReplay
