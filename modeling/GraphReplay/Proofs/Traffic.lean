import GraphReplay.Proofs.Resources

/-!
# Serving requests

A request names a key; the executor of the key is looked up and launched. Whatever
else comes in between, faults that are armed and waits for the stream, such a
request is answered by two things only: whether the key has an executor, and
whether a fault waits for the next launch. What runs are the operations of the
requests that succeeded, in the order of the requests.

This takes a workspace whose executors live: nobody else destroyed one of them.
Then they do, because the log of its device tells that each was made
(`Reachable.mem_madeIn`), and what was made and not destroyed is live.

* `InService`: no capture is open, and every executor is live;
* `Serviced`: some executors were launched in turn, and else nothing happened;
* `InService.serviced_afterUses`: so it is after every sequence of uses;
* `requests_are_served`: the answers, and what ran.
-/

namespace GraphReplay

/-! ## What the log tells of launches -/

namespace Event

/-- What was launched. -/
def launched? : Event → Option Nat
  | .launch x => some x
  | _ => none

/-- What was launched, by the log. -/
def launchedIn (log : List Event) : List Nat := log.filterMap launched?

theorem launchedIn_concat (log : List Event) (e : Event) :
    launchedIn (log ++ [e]) = launchedIn log ++ e.launched?.toList :=
  filterMap_concat launched? log e

theorem destroyed?_eq_executor_iff {e : Event} {id : Nat} :
    e.destroyed? = some ⟨.executor, id⟩ ↔ e = .destroyExecutor id := by
  cases e <;> simp [destroyed?]

theorem mem_destroyedIn_executor_iff {log : List Event} {id : Nat} :
    ⟨.executor, id⟩ ∈ destroyedIn log ↔ .destroyExecutor id ∈ log := by
  simp [destroyedIn, destroyed?_eq_executor_iff]

end Event

/-- A fault that is armed and then used up leaves nothing. -/
theorem Device.disarm_arm {d : Device} {p : FaultPoint} (hp : p ∉ d.armed) :
    (d.arm p).disarm p = d := by
  have hothers : d.armed.filter (· ≠ p) = d.armed :=
    List.filter_eq_self.2 fun q hq => decide_eq_true fun heq => hp (heq ▸ hq)
  have hfilter : (d.armed ++ [p]).filter (· ≠ p) = d.armed := by
    rw [List.filter_append, hothers]
    simp
  rw [arm, if_neg hp, disarm]
  exact congrArg (fun armed => { d with armed := armed }) hfilter

/-- The log only grows. -/
theorem Books.Step.events_prefix {held held' : List Buffer} {b b' : Books}
    (h : Step held b held' b') : b.events <+: b'.events := by
  cases h with
  | quiet => exact List.prefix_refl _
  | told => exact List.prefix_append _ _
  | made => exact List.prefix_append _ _
  | destroyed => exact List.prefix_append _ _
  | allocated => exact List.prefix_append _ _
  | freed => exact List.prefix_append _ _

/-- What was made stays made. -/
theorem Device.Step.mem_madeIn {held held' : List Buffer} {d d' : Device} {h : Handle}
    (hd : Step held d held' d') (hh : h ∈ Event.madeIn d.events) : h ∈ Event.madeIn d'.events :=
  (hd.books.events_prefix.filterMap Event.made?).subset hh

namespace Workspace

variable {w w' w'' : Workspace} {held : List Buffer} {key : Key} {e : Executor}

/-! ## Executors that live -/

/-- Every executor that a build leaves was made, and none was destroyed. -/
theorem Reachable.liveIn_build (hw : w.Reachable held) (hp : w.phase = .registering)
    (he : w.build.2.executors.find? key = some e) :
    e.handle.LiveIn w.build.2.device.events := by
  obtain ⟨-, -, -, -, -, hlive, -⟩ := build_accounts hw hp
  have hid : e.id ∈ w.build.2.executors.entries.map (·.2.id) :=
    List.mem_map_of_mem (Table.mem_of_find? he)
  exact (hw.build.sound.tallied.has_iff e.handle).1 (hlive e.id (List.mem_append_right _ hid))

/-- The log tells of each executor that it was made. -/
theorem Reachable.mem_madeIn (hw : w.Reachable held) (he : w.executors.find? key = some e) :
    e.handle ∈ Event.madeIn w.device.events := by
  induction hw with
  | create _ h =>
    obtain ⟨_, -, h⟩ := Failure.bind_eq_ok_iff.1 h
    cases h
    cases he
  | @register held w l name m batchSize _ ih =>
    rcases register_cases w l name m batchSize with h | ⟨r, -, -, h⟩
    · rw [h] at he ⊢
      exact ih he
    · rw [h] at he ⊢
      exact ih he
  | @build held w hw ih =>
    cases hp : w.phase with
    | built =>
      rw [build_of_built hp] at he ⊢
      exact ih he
    | registering => exact (hw.liveIn_build hp he).1
  | @launch held w x _ ih => exact (Device.Step.call held w.device (.launch x)).mem_madeIn (ih he)
  | @synchronize held w _ ih =>
    rw [Workspace.synchronize, Procedure.on_callDevice] at he ⊢
    exact (Device.Step.call held w.device .synchronize).mem_madeIn (ih he)
  | device _ h ih => exact h.mem_madeIn (ih he)
  | collect _ ih => exact ih he

/-- A workspace that can serve: no capture is open, and every executor is live. -/
structure InService (w : Workspace) : Prop where
  idle : w.device.capture = none
  live : ∀ {key e}, w.executors.find? key = some e → w.device.books.Has e.handle

/-- Where no executor was destroyed from outside, every one is live. -/
theorem Reachable.inService (hw : w.Reachable held) (hidle : w.device.capture = none)
    (hkept : ∀ key e, w.executor key = .ok e → .destroyExecutor e.id ∉ w.device.events) :
    w.InService where
  idle := hidle
  live he := by
    refine (hw.sound.tallied.has_iff _).2 ⟨hw.mem_madeIn he, fun hdestroyed => ?_⟩
    exact hkept _ _ (executor_eq_ok_iff.2 he) (Event.mem_destroyedIn_executor_iff.1 hdestroyed)

/-- After a build, whatever it came to, no executor was destroyed yet. -/
theorem Reachable.kept_build (hw : w.Reachable held) (hp : w.phase = .registering) (key : Key)
    (e : Executor) (he : w.build.2.executor key = .ok e) :
    .destroyExecutor e.id ∉ w.build.2.device.events := fun hdestroyed =>
  (hw.liveIn_build hp (executor_eq_ok_iff.1 he)).2 (Event.mem_destroyedIn_executor_iff.2 hdestroyed)

/-! ## Requests -/

/-- Why a request is not served. -/
inductive Unserved
  | unknown (e : LookupError)
  | device (f : Failure DeviceError)
  deriving DecidableEq, Repr

/-- Serve a request: look the executor of the key up, and launch it. -/
def replay (w : Workspace) (key : Key) : Except Unserved Unit × Workspace :=
  match w.executor key with
  | .error e => (.error (.unknown e), w)
  | .ok e =>
    let (answer, w') := w.launch e
    (answer.mapError .device, w')

/-- What is done with a workspace in service. -/
inductive Use
  | replay (key : Key)
  | arm (point : FaultPoint)
  | synchronize

/-- The workspace after a use. -/
def afterUse (w : Workspace) : Use → Workspace
  | .replay key => (w.replay key).2
  | .arm point => { w with device := w.device.arm point }
  | .synchronize => w.synchronize.2

/-- The workspace after some uses in turn. -/
def afterUses (w : Workspace) : List Use → Workspace
  | [] => w
  | u :: us => (w.afterUse u).afterUses us

/-- The key of a use that is a request and is served. -/
def servedBy (w : Workspace) : Use → List Key
  | .replay key =>
    match (w.replay key).1 with
    | .ok _ => [key]
    | .error _ => []
  | _ => []

/-- The keys of the requests that are served, in order. -/
def served (w : Workspace) : List Use → List Key
  | [] => []
  | u :: us => w.servedBy u ++ (w.afterUse u).served us

/-- A key without an executor. -/
theorem replay_of_unknown {x : LookupError} (h : w.executor key = .error x) :
    w.replay key = (.error (.unknown (.graphNotFound key.name key.batchSize)), w) := by
  rw [replay, h]
  rw [executor] at h
  split at h
  · cases h
  · cases h
    rfl

/-- A launch that meets a fault. -/
theorem replay_of_armed (h : w.executor key = .ok e) (harmed : .launch ∈ w.device.armed) :
    w.replay key = (.error (.device (.error (.injected .launch))),
      { w with device := w.device.disarm .launch }) := by
  have hlaunch : w.device.launch e =
      (.error (.error (.injected .launch)), w.device.disarm .launch) := if_pos harmed
  rw [replay, h]
  simp only [launch, hlaunch]
  rfl

/-- A launch that meets none. -/
theorem InService.replay_eq_ok (hw : w.InService) (h : w.executor key = .ok e)
    (harmed : .launch ∉ w.device.armed) :
    w.replay key = (.ok (), { w with device :=
      { w.device with executed := w.device.executed ++ e.ops
                      events := w.device.events ++ [.launch e.id] } }) := by
  have hlaunch : w.device.launch e =
      (.ok (), (w.device.record (.launch e.id)).issue e.ops) :=
    Device.launch_eq_ok_iff.2 ⟨harmed, hw.live (executor_eq_ok_iff.1 h), rfl⟩
  have hissue : (w.device.record (.launch e.id)).issue e.ops =
      { w.device with executed := w.device.executed ++ e.ops
                      events := w.device.events ++ [.launch e.id] } := by
    rw [Device.issue]
    simp only [Device.record, hw.idle]
  rw [replay, h]
  simp only [launch, hlaunch, hissue]
  rfl

/-! ## Uses in turn -/

/-- These executors were launched in turn, and nothing else happened that requests could notice, apart
    from faults. -/
structure Serviced (w : Workspace) (es : List Executor) (w' : Workspace) : Prop where
  executors : w'.executors = w.executors
  capture : w'.device.capture = w.device.capture
  live : w'.device.liveExecutors = w.device.liveExecutors
  executed : w'.device.executed = w.device.executed ++ es.flatMap (·.ops)
  launched : Event.launchedIn w'.device.events =
    Event.launchedIn w.device.events ++ es.map (·.id)

theorem Serviced.trans {es es' : List Executor} (h : w.Serviced es w') (h' : w'.Serviced es' w'') :
    w.Serviced (es ++ es') w'' where
  executors := h'.executors.trans h.executors
  capture := h'.capture.trans h.capture
  live := h'.live.trans h.live
  executed := by rw [h'.executed, h.executed, List.append_assoc, List.flatMap_append]
  launched := by rw [h'.launched, h.launched, List.append_assoc, List.map_append]

theorem Serviced.executor_eq {es : List Executor} (h : w.Serviced es w') :
    w'.executor = w.executor := by
  funext key
  rw [executor, h.executors, executor]

theorem Serviced.inService {es : List Executor} (h : w.Serviced es w') (hw : w.InService) :
    w'.InService where
  idle := h.capture.trans hw.idle
  live {key e} he := by
    rw [h.executors] at he
    have hlive : e.id ∈ w.device.liveExecutors := hw.live he
    rwa [← h.live] at hlive

/-- Faults make no difference. -/
theorem serviced_of_armed (w : Workspace) (armed : List FaultPoint) :
    w.Serviced [] { w with device := { w.device with armed := armed } } where
  executors := rfl
  capture := rfl
  live := rfl
  executed := (List.append_nil _).symm
  launched := (List.append_nil _).symm

/-- One use launches the executor of the key that it serves, if it serves any. -/
theorem InService.serviced (hw : w.InService) (u : Use) :
    ∃ es, w.Serviced es (w.afterUse u) ∧ (w.servedBy u).map w.executor = es.map .ok := by
  cases u with
  | replay key =>
    rw [afterUse, servedBy]
    cases hx : w.executor key with
    | error x =>
      rw [replay_of_unknown hx]
      exact ⟨[], w.serviced_of_armed w.device.armed, rfl⟩
    | ok e =>
      by_cases harmed : .launch ∈ w.device.armed
      · rw [replay_of_armed hx harmed]
        exact ⟨[], w.serviced_of_armed _, rfl⟩
      · rw [hw.replay_eq_ok hx harmed]
        refine ⟨[e], ⟨rfl, rfl, rfl, ?_, Event.launchedIn_concat _ _⟩, congrArg (fun x => [x]) hx⟩
        rw [List.flatMap_singleton]
  | arm p =>
    rw [afterUse, Device.arm]
    split
    · exact ⟨[], w.serviced_of_armed w.device.armed, rfl⟩
    · exact ⟨[], w.serviced_of_armed _, rfl⟩
  | synchronize =>
    rw [afterUse, synchronize, Procedure.on_callDevice]
    rcases h : w.device.synchronize with ⟨f | u, d⟩
    · obtain ⟨armed, rfl⟩ := Device.guarded_eq_error h
      exact ⟨[], w.serviced_of_armed armed, rfl⟩
    · obtain ⟨-, rfl⟩ := Device.synchronize_eq_ok_iff.1 h
      exact ⟨[], ⟨rfl, rfl, rfl, (List.append_nil _).symm, Event.launchedIn_concat _ _⟩, rfl⟩

/-- So do any number of uses, by induction on them. -/
theorem InService.serviced_afterUses (hw : w.InService) (us : List Use) :
    ∃ es, w.Serviced es (w.afterUses us) ∧ (w.served us).map w.executor = es.map .ok := by
  induction us generalizing w with
  | nil => exact ⟨[], w.serviced_of_armed w.device.armed, rfl⟩
  | cons u us ih =>
    obtain ⟨es, h, hes⟩ := hw.serviced u
    obtain ⟨es', h', hes'⟩ := ih (h.inService hw)
    refine ⟨es ++ es', h.trans h', ?_⟩
    rw [h.executor_eq] at hes'
    rw [served, List.map_append, List.map_append, hes, hes']

/-- Requests are served as they come. After whatever uses of a workspace, with no capture open and no
    executor destroyed from outside, a request for a key without an executor is told so, with the
    name and the batch size, and changes nothing. A request for a key with one is answered by a
    fault if one waits for it, and uses the fault up, so that nothing is left of the two; in all
    other cases it succeeds. What ran is the one operation of the key of each request that
    succeeded, in the order of the requests, and what the log says was launched are just their
    executors. -/
theorem requests_are_served (hw : w.Reachable held) (hidle : w.device.capture = none)
    (hkept : ∀ key e, w.executor key = .ok e → .destroyExecutor e.id ∉ w.device.events)
    (us : List Use) :
    (∀ key x, w.executor key = .error x →
      (w.afterUses us).replay key =
        (.error (.unknown (.graphNotFound key.name key.batchSize)), w.afterUses us)) ∧
      (∀ key e, w.executor key = .ok e →
        (∃ args, e.ops = [⟨key.name ++ "::forward", key.batchSize, args⟩]) ∧
        (.launch ∈ (w.afterUses us).device.armed →
          (w.afterUses us).replay key = (.error (.device (.error (.injected .launch))),
            { w.afterUses us with device := (w.afterUses us).device.disarm .launch })) ∧
        (.launch ∉ (w.afterUses us).device.armed →
          ((w.afterUses us).replay key).1 = .ok () ∧
            ((w.afterUses us).afterUse (.arm .launch)).replay key =
              (.error (.device (.error (.injected .launch))), w.afterUses us))) ∧
      ∃ es : List Executor, (w.served us).map w.executor = es.map .ok ∧
        (w.afterUses us).device.executed = w.device.executed ++ es.flatMap (·.ops) ∧
        Event.launchedIn (w.afterUses us).device.events =
          Event.launchedIn w.device.events ++ es.map (·.id) := by
  have hservice := hw.inService hidle hkept
  obtain ⟨es, h, hes⟩ := hservice.serviced_afterUses us
  refine ⟨fun key x hx => replay_of_unknown (h.executor_eq ▸ hx), fun key e he => ?_,
    es, hes, h.executed, h.launched⟩
  obtain ⟨ps, a, -, -, hops⟩ := hw.serving key e (executor_eq_ok_iff.1 he)
  have he' : (w.afterUses us).executor key = .ok e := h.executor_eq ▸ he
  refine ⟨⟨_, hops⟩, replay_of_armed he', fun harmed => ⟨?_, ?_⟩⟩
  · rw [(h.inService hservice).replay_eq_ok he' harmed]
  · have hrearmed : .launch ∈ ((w.afterUses us).device.arm .launch).armed := by
      rw [Device.arm, if_neg harmed]
      exact List.mem_append_right _ (List.mem_singleton_self _)
    rw [replay_of_armed (w := (w.afterUses us).afterUse (.arm .launch)) he' hrearmed, afterUse,
      Device.disarm_arm harmed]

/-- A build that was given up at its last key serves the keys before it. Of four requests one is for
    that key, and one meets a fault. -/
theorem refused_requests_are_served :
    let us : List Use := [.replay ⟨"z", 1⟩, .replay ⟨"b", 2⟩, .arm .launch, .replay ⟨"a", 1⟩,
      .synchronize, .replay ⟨"a", 4⟩]
    refused.build.2.served us = [⟨"b", 2⟩, ⟨"a", 4⟩] ∧
      (refused.build.2.afterUses us).replay ⟨"z", 1⟩ =
        (.error (.unknown (.graphNotFound "z" 1)), refused.build.2.afterUses us) ∧
      ((refused.build.2.afterUses us).replay ⟨"a", 1⟩).1 = .ok () ∧
      ∃ es : List Executor, [⟨"b", 2⟩, ⟨"a", 4⟩].map refused.build.2.executor = es.map .ok ∧
        (refused.build.2.afterUses us).device.executed = es.flatMap (·.ops) ∧
        Event.launchedIn (refused.build.2.afterUses us).device.events = es.map (·.id) := by
  intro us
  have hp : refused.phase = .registering := by decide +kernel
  have hidle : refused.build.2.device.capture = none := by decide +kernel
  have hserved : refused.build.2.served us = [⟨"b", 2⟩, ⟨"a", 4⟩] := by decide +kernel
  have hnone : refused.build.2.executors.find? ⟨"z", 1⟩ = none := by decide +kernel
  have hunbuilt : refused.build.2.executor ⟨"z", 1⟩ = .error (.graphNotFound "z" 1) := by
    rw [executor, hnone]
  have hbuilt : refused.build.2.executor ⟨"a", 1⟩ =
      .ok ⟨2, [⟨"a::forward", 1, [⟨1024⟩, ⟨1536⟩, ⟨132328⟩]⟩]⟩ :=
    executor_eq_ok_iff.2 (by decide +kernel)
  obtain ⟨hunknown, hknown, es, hes, hexecuted, hlaunched⟩ :=
    requests_are_served refused_reachable.build hidle (refused_reachable.kept_build hp) us
  obtain ⟨-, -, hunarmed⟩ := hknown ⟨"a", 1⟩ _ hbuilt
  have hbefore : refused.build.2.device.executed = [] := by decide +kernel
  have hbefore' : Event.launchedIn refused.build.2.device.events = [] := by decide +kernel
  rw [hserved] at hes
  rw [hbefore, List.nil_append] at hexecuted
  rw [hbefore', List.nil_append] at hlaunched
  exact ⟨hserved, hunknown ⟨"z", 1⟩ _ hunbuilt, (hunarmed (by decide +kernel)).1, es, hes,
    hexecuted, hlaunched⟩

end Workspace

end GraphReplay
