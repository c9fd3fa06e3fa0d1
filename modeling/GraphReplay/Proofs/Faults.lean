import GraphReplay.Proofs.Defects
import GraphReplay.Proofs.Stream

/-!
# Faults and failed calls

A fault is armed at a point and makes one call there fail. The call answers that the
fault was injected and has no other effect, except that a capture which was to be ended
is closed first. The same holds of a call that fails by itself: it leaves the device as
it is. Only the end of a capture where none is open does not look at its fault, which
stays armed.

* `Attempt`: the eight calls, with the point that each looks at;
* `Outcome`: what can become of a call that looks at its fault (`attempt_outcome`);
* `attempt_eq_of_error`: the frame of a call that fails;
* `act_conserves`: a step uses up as many faults as it injects;
* `injected_conserves`: so does a run in which none is armed anew;
* `faults_fire_once`: all of this together, and a point that was armed any number of
  times makes one call fail.
-/

namespace GraphReplay.Device

open Failure

variable {α : Type} {d d' : Device} {p : FaultPoint} {f : Failure DeviceError}

/-! ## Calls -/

/-- A call that looks at a fault. -/
inductive Attempt
  | allocate (bytes : Nat)
  | beginCapture (mode : CaptureMode)
  | endCapture
  | instantiate (g : Graph)
  | launch (e : Executor)
  | synchronize
  | destroyExecutor (e : Executor)
  | destroyGraph (g : Graph)

namespace Attempt

/-- The fault that a call looks at. -/
def point : Attempt → FaultPoint
  | .allocate _ => .allocate
  | .beginCapture _ => .beginCapture
  | .endCapture => .endCapture
  | .instantiate _ => .instantiate
  | .launch _ => .launch
  | .synchronize => .synchronize
  | .destroyExecutor _ => .destroyExecutor
  | .destroyGraph _ => .destroyGraph

/-- The call gets as far as to look at its fault. -/
def Heeds (a : Attempt) (d : Device) : Prop := a = .endCapture → d.capture ≠ none

/-- The capture that is open when a call looks at its fault. -/
def captureOf (a : Attempt) (d : Device) : Option (List Op) :=
  match a with
  | .endCapture => none
  | _ => d.capture

end Attempt

/-- A call, apart from the value that it answers. -/
def Answer.done (x : Answer α) : Answer Unit := (x.1.map fun _ => (), x.2)

theorem Answer.eq_of_done {x : Answer α} (h : x.done = (.error f, d')) : x = (.error f, d') := by
  obtain ⟨f' | a, d₁⟩ := x <;> cases h
  rfl

/-- Make a call. -/
def attempt (d : Device) : Attempt → Answer Unit
  | .allocate bytes => (d.allocate bytes).done
  | .beginCapture mode => (d.beginCapture mode).done
  | .endCapture => d.endCapture.done
  | .instantiate g => (d.instantiate g).done
  | .launch e => (d.launch e).done
  | .synchronize => d.synchronize.done
  | .destroyExecutor e => (d.destroyExecutor e).done
  | .destroyGraph g => (d.destroyGraph g).done

/-! ## What becomes of a call -/

/-- The failure is not that of a fault. -/
def Genuine (f : Failure DeviceError) : Prop := ∀ p, f ≠ .error (.injected p)

/-- A number has become too large. -/
def Exhausted (f : Failure DeviceError) : Prop := ∃ x : Defect, x.Overflow ∧ f = .defect x

theorem exhausted_lift {x : Except Defect α} (hx : Raises Defect.Overflow x) :
    Raises Exhausted (liftM x : Except (Failure DeviceError) α) :=
  hx.lift_of fun d hd => ⟨d, hd, rfl⟩

theorem genuine_of_exhausted {x : Except (Failure DeviceError) α} (hx : Raises Exhausted x) :
    Raises Genuine x := by
  intro f hf
  obtain ⟨d, -, rfl⟩ := hx f hf
  exact fun _ h => by cases h

theorem raises_ite {c : Prop} [Decidable c] {a : α} (hf : Genuine f) :
    Raises Genuine (if c then .ok a else .error f) := by
  split
  · exact raises_ok a
  · exact raises_error hf

/-- What can become of a call at `p`. -/
inductive Outcome (d : Device) (p : FaultPoint) : Answer Unit → Prop
  | injected : p ∈ d.armed → Outcome d p (.error (.error (.injected p)), d.disarm p)
  | failed {f : Failure DeviceError} : p ∉ d.armed → Genuine f → Outcome d p (.error f, d)
  | done {d' : Device} : p ∉ d.armed → d'.armed = d.armed → Outcome d p (.ok (), d')

theorem guarded_outcome {x : Except (Failure DeviceError) (α × Device)} (hfails : Raises Genuine x)
    (hdone : ∀ a d', d.guarded p x = (.ok a, d') → d'.armed = d.armed) :
    Outcome d p (d.guarded p x).done := by
  rcases guarded_cases d p x with ⟨hp, hg⟩ | ⟨hp, f, hf, hg⟩ | ⟨hp, a, d', -, hg⟩
  · rw [hg]
    exact .injected hp
  · rw [hg]
    exact .failed hp (hfails f hf)
  · have hkept := hdone a d' hg
    rw [hg]
    exact .done hp hkept

theorem issue_armed (d : Device) (ops : List Op) : (d.issue ops).armed = d.armed := by
  rw [issue]
  split <;> rfl

/-- A call that looks at its fault finds it armed, or fails by itself and changes nothing, or
    succeeds. -/
theorem attempt_outcome {a : Attempt} (h : a.Heeds d) :
    Outcome { d with capture := a.captureOf d } a.point (d.attempt a) := by
  cases a with
  | allocate bytes =>
    refine guarded_outcome (genuine_of_exhausted ?_) fun b d' hok => ?_
    · exact (exhausted_lift (d.addressAfter_overflow bytes)).bind fun _ => raises_ok _
    · obtain ⟨-, -, -, rfl⟩ := allocate_eq_ok_iff.1 hok
      rfl
  | beginCapture mode =>
    refine guarded_outcome ?_ fun b d' hok => ?_
    · split
      · exact raises_error fun _ h => by cases h
      · exact raises_ok _
    · obtain ⟨-, -, rfl⟩ := beginCapture_eq_ok_iff.1 hok
      rfl
  | endCapture =>
    -- The capture is closed already when the fault is looked at.
    obtain ⟨ops, hcapture⟩ := Option.ne_none_iff_exists'.1 (h rfl)
    simp only [attempt, endCapture, hcapture]
    refine guarded_outcome (genuine_of_exhausted ?_) fun g d' hok => ?_
    · exact (exhausted_lift (newHandle_overflow _)).bind fun _ => raises_ok _
    · have hend : d.endCapture = (.ok g, d') := by
        rw [endCapture, hcapture]
        exact hok
      obtain ⟨_, -, -, -, -, rfl⟩ := endCapture_eq_ok_iff.1 hend
      rfl
  | instantiate g =>
    refine guarded_outcome ?_ fun x d' hok => ?_
    · split
      · exact genuine_of_exhausted <|
          (exhausted_lift (newHandle_overflow d)).bind fun _ => raises_ok _
      · exact raises_error fun _ h => by cases h
    · obtain ⟨-, -, -, -, rfl⟩ := instantiate_eq_ok_iff.1 hok
      rfl
  | launch x =>
    refine guarded_outcome (raises_ite fun _ h => by cases h) fun u d' hok => ?_
    obtain ⟨-, -, rfl⟩ := launch_eq_ok_iff.1 hok
    exact issue_armed _ _
  | synchronize =>
    refine guarded_outcome (raises_ok _) fun u d' hok => ?_
    obtain ⟨-, rfl⟩ := synchronize_eq_ok_iff.1 hok
    rfl
  | destroyExecutor x =>
    refine guarded_outcome (raises_ite fun _ h => by cases h) fun u d' hok => ?_
    obtain ⟨-, -, rfl⟩ := destroyExecutor_eq_ok_iff.1 hok
    rfl
  | destroyGraph g =>
    refine guarded_outcome (raises_ite fun _ h => by cases h) fun u d' hok => ?_
    obtain ⟨-, -, rfl⟩ := destroyGraph_eq_ok_iff.1 hok
    rfl

/-- A call that does not look at its fault ends no capture, since none is open. -/
theorem attempt_of_not_heeds {a : Attempt} (h : ¬a.Heeds d) :
    d.attempt a = (.error (.error .notCapturing), d) := by
  obtain ⟨rfl, hcapture⟩ := Classical.not_imp.1 h
  rw [attempt, endCapture, not_not.1 hcapture]
  rfl

/-! ## Calls that fail -/

/-- An armed fault that a call looks at. -/
theorem attempt_of_armed {a : Attempt} (h : a.Heeds d) (hp : a.point ∈ d.armed) :
    d.attempt a = (.error (.error (.injected a.point)),
      { d with capture := a.captureOf d, armed := d.armed.filter (· ≠ a.point) }) := by
  have hout := attempt_outcome h
  generalize d.attempt a = x at hout
  cases hout with
  | injected _ => rfl
  | failed hp' _ => exact absurd hp hp'
  | done hp' _ => exact absurd hp hp'

/-- A call uses up no fault but its own. -/
theorem attempt_armed_of_notMem {a : Attempt} (hp : a.point ∉ d.armed) :
    (d.attempt a).2.armed = d.armed := by
  by_cases h : a.Heeds d
  · have hout := attempt_outcome h
    generalize d.attempt a = x at hout
    cases hout with
    | injected hp' => exact absurd hp' hp
    | failed _ _ => rfl
    | done _ harmed => exact harmed
  · rw [attempt_of_not_heeds h]

/-- A call that fails leaves everything as it is, apart from the fault that it uses up, and from the
    capture that a fault ends. -/
theorem attempt_eq_of_error {a : Attempt} {e : DeviceError}
    (h : d.attempt a = (.error (.error e), d')) :
    d' = { d with
      capture := if e = .injected .endCapture then none else d.capture
      armed := d'.armed } := by
  by_cases hheeds : a.Heeds d
  · have hout := attempt_outcome hheeds
    rw [h] at hout
    cases hout with
    | injected _ => cases a <;> simp [Attempt.captureOf, Attempt.point, disarm]
    | failed _ hgenuine =>
      have hother : e ≠ .injected .endCapture := fun he => hgenuine .endCapture (congrArg _ he)
      rw [if_neg hother]
      cases a with
      | endCapture =>
        -- The end of an open capture fails for a fault, or for the number of its graph.
        obtain ⟨ops, hcapture⟩ := Option.ne_none_iff_exists'.1 (hheeds rfl)
        rcases failure_of_endCapture hcapture (Answer.eq_of_done h) with he | ⟨he, -⟩
        · exact absurd (Failure.error.inj he) hother
        · cases he
      | _ => rfl
  · rw [attempt_of_not_heeds hheeds] at h
    cases h
    rfl

/-- A call that a defect stops changes nothing, except that an open capture was closed. -/
theorem attempt_eq_of_defect {a : Attempt} {x : Defect}
    (h : d.attempt a = (.error (.defect x), d')) : d' = { d with capture := a.captureOf d } := by
  by_cases hheeds : a.Heeds d
  · have hout := attempt_outcome hheeds
    rw [h] at hout
    cases hout with
    | failed _ _ => rfl
  · rw [attempt_of_not_heeds hheeds] at h
    cases h

theorem guarded_raises {P : Failure DeviceError → Prop} {x : Except (Failure DeviceError) (α × Device)}
    (hp : p ∉ d.armed) (hx : Raises P x) : Raises P (d.guarded p x).1 := by
  intro f hf
  rcases guarded_cases d p x with ⟨hp', -⟩ | ⟨-, f', hf', hg⟩ | ⟨-, a, d', -, hg⟩
  · exact absurd hp' hp
  · rw [hg] at hf
    cases hf
    exact hx f hf'
  · rw [hg] at hf
    cases hf

theorem allocate_exhausted (hp : .allocate ∉ d.armed) (bytes : Nat) :
    Raises Exhausted (d.allocate bytes).1 :=
  guarded_raises hp <| (exhausted_lift (d.addressAfter_overflow bytes)).bind fun _ => raises_ok _

/-- An allocation is stopped by a defect exactly if the addresses do not suffice. -/
theorem allocate_defect_iff {bytes : Nat} :
    (∃ x, (d.attempt (.allocate bytes)).1 = .error (.defect x)) ↔
      .allocate ∉ d.armed ∧ Word.limit ≤ d.nextAddress + d.span bytes := by
  have hheeds : (Attempt.allocate bytes).Heeds d := nofun
  constructor
  · rintro ⟨x, hx⟩
    have harmed : .allocate ∉ d.armed := fun hp => by
      rw [attempt_of_armed hheeds hp] at hx
      cases hx
    refine ⟨harmed, Nat.not_lt.1 fun hlt => ?_⟩
    rw [attempt, allocate_eq_ok_iff.2 ⟨harmed, hlt, rfl, rfl⟩] at hx
    cases hx
  · rintro ⟨harmed, hfull⟩
    rcases h : d.allocate bytes with ⟨f | b, d'⟩
    · obtain ⟨x, -, rfl⟩ := allocate_exhausted harmed bytes f (by rw [h])
      exact ⟨x, by rw [attempt, h]; rfl⟩
    · obtain ⟨-, hlt, -⟩ := allocate_eq_ok_iff.1 h
      exact absurd hlt (Nat.not_lt.2 hfull)

/-! ## Runs -/

/-- What can be done with a device. -/
inductive Act
  | arm (p : FaultPoint)
  | attempt (a : Attempt)
  | enqueue (op : Op)
  | free (b : Buffer)

/-- The device after an act. -/
def act (d : Device) : Act → Device
  | .arm p => d.arm p
  | .attempt a => (d.attempt a).2
  | .enqueue op => d.enqueue op
  | .free b => d.free b

/-- The fault that an answer tells of. -/
def faultOf : Answer Unit → List FaultPoint
  | (.error (.error (.injected p)), _) => [p]
  | _ => []

/-- The fault that an act meets. -/
def injectedBy (d : Device) : Act → List FaultPoint
  | .attempt a => faultOf (d.attempt a)
  | .arm _ | .enqueue _ | .free _ => []

/-- The device after some acts in turn. -/
def afterActs (d : Device) : List Act → Device
  | [] => d
  | x :: xs => (d.act x).afterActs xs

/-- The faults that some acts in turn meet. -/
def injected (d : Device) : List Act → List FaultPoint
  | [] => []
  | x :: xs => d.injectedBy x ++ (d.act x).injected xs

/-- How many faults are armed at `p`: one or none. -/
def charge (d : Device) (p : FaultPoint) : Nat := if p ∈ d.armed then 1 else 0

theorem charge_congr (h : d'.armed = d.armed) (p : FaultPoint) : d'.charge p = d.charge p := by
  rw [charge, h, charge]

theorem charge_disarm (hp : p ∈ d.armed) (q : FaultPoint) :
    [p].count q + (d.disarm p).charge q = d.charge q := by
  by_cases hq : q = p
  · subst hq
    simp [charge, disarm, hp]
  · simp [charge, disarm, hq, Ne.symm hq]

theorem faultOf_genuine (h : Genuine f) (d : Device) : faultOf (.error f, d) = [] := by
  match f with
  | .error (.injected p) => exact absurd rfl (h p)
  | .error .alreadyCapturing | .error .notCapturing | .error (.unknownGraph _)
  | .error (.unknownExecutor _) | .defect _ => rfl

/-- An act uses up as many faults as it meets. -/
theorem act_conserves {x : Act} (hx : x ≠ .arm p) :
    (d.injectedBy x).count p + (d.act x).charge p = d.charge p := by
  cases x with
  | arm q =>
    have hq : p ≠ q := fun h => hx (h ▸ rfl)
    rw [injectedBy, act, arm]
    split
    · simp
    · simp [charge, hq]
  | attempt a =>
    rw [injectedBy, act]
    by_cases hheeds : a.Heeds d
    · have hout := attempt_outcome hheeds
      generalize d.attempt a = y at hout
      cases hout with
      | injected hp => exact charge_disarm hp p
      | failed _ hgenuine =>
        rw [faultOf_genuine hgenuine]
        exact Nat.zero_add _
      | done _ harmed => exact (Nat.zero_add _).trans (charge_congr harmed p)
    · rw [attempt_of_not_heeds hheeds]
      exact Nat.zero_add _
  | enqueue op => exact (Nat.zero_add _).trans (charge_congr (issue_armed d [op]) p)
  | free b => exact Nat.zero_add _

/-- So do some acts in turn, by induction on them. -/
theorem injected_conserves {xs : List Act} (hxs : ∀ x ∈ xs, x ≠ .arm p) :
    (d.injected xs).count p + (d.afterActs xs).charge p = d.charge p := by
  induction xs generalizing d with
  | nil => exact Nat.zero_add _
  | cons x xs ih =>
    obtain ⟨hx, hxs⟩ := List.forall_mem_cons.1 hxs
    rw [injected, afterActs, List.count_append, Nat.add_assoc, ih hxs, act_conserves hx]

theorem injected_append (d : Device) (xs ys : List Act) :
    d.injected (xs ++ ys) = d.injected xs ++ (d.afterActs xs).injected ys := by
  induction xs generalizing d with
  | nil => rfl
  | cons x xs ih => rw [List.cons_append, injected, injected, ih, List.append_assoc, afterActs]

theorem mem_armed_arm (d : Device) (p : FaultPoint) : p ∈ (d.arm p).armed := by
  rw [arm]
  split
  · next h => exact h
  · exact List.mem_append_right _ (List.mem_singleton_self p)

/-- Arming a fault again changes nothing. -/
theorem charge_afterActs_arm (d : Device) (p : FaultPoint) (n : Nat) :
    (d.afterActs (List.replicate (n + 1) (.arm p))).charge p = 1 := by
  induction n generalizing d with
  | zero => exact if_pos (d.mem_armed_arm p)
  | succ n ih => exact ih (d.arm p)

/-- After a call that looks at a fault, this one is not armed. -/
theorem charge_attempt {a : Attempt} (h : a.Heeds d) : (d.act (.attempt a)).charge a.point = 0 := by
  rw [act]
  by_cases hp : a.point ∈ d.armed
  · rw [attempt_of_armed h hp]
    exact if_neg (by simp)
  · rw [charge_congr (attempt_armed_of_notMem hp)]
    exact if_neg hp

/-- A fault that was armed, however often, makes one call fail of all that are made until it is armed
    again, if one of these looks at it. -/
theorem count_injected_of_armed {a : Attempt} {xs ys : List Act} (n : Nat)
    (hxs : ∀ x ∈ xs, x ≠ .arm a.point) (hys : ∀ y ∈ ys, y ≠ .arm a.point)
    (ha : a.Heeds ((d.afterActs (List.replicate (n + 1) (.arm a.point))).afterActs xs)) :
    ((d.afterActs (List.replicate (n + 1) (.arm a.point))).injected
      (xs ++ .attempt a :: ys)).count a.point = 1 := by
  have harmed := d.charge_afterActs_arm a.point n
  generalize d.afterActs (List.replicate (n + 1) (.arm a.point)) = d₀ at ha harmed
  -- Up to the call the fault is armed or was met, and after it there is none.
  have hbefore := injected_conserves (d := d₀) hxs
  have hcall := act_conserves (d := d₀.afterActs xs) (x := .attempt a) (p := a.point) nofun
  have hafter := injected_conserves (d := (d₀.afterActs xs).act (.attempt a)) hys
  rw [charge_attempt ha] at hcall hafter
  rw [injected_append, injected, List.count_append, List.count_append]
  omega

/-! ## All of it -/

/-- Faults are used up by the one call that they make fail, and a call that fails has no other
    effect. -/
theorem faults_fire_once (d : Device) :
    -- An armed fault answers, and is the only one that is used up.
    (∀ a : Attempt, a.Heeds d → a.point ∈ d.armed →
      d.attempt a = (.error (.error (.injected a.point)),
        { d with capture := a.captureOf d, armed := d.armed.filter (· ≠ a.point) })) ∧
    -- The end of no capture leaves its fault armed.
    (d.capture = none → d.attempt .endCapture = (.error (.error .notCapturing), d)) ∧
    -- A call whose fault is not armed leaves the armed faults as they are.
    (∀ a : Attempt, a.point ∉ d.armed → (d.attempt a).2.armed = d.armed) ∧
    -- A call that fails leaves the rest of the device as it is.
    (∀ (a : Attempt) (e : DeviceError), (d.attempt a).1 = .error (.error e) →
      (d.attempt a).2 = { d with
        capture := if e = .injected .endCapture then none else d.capture
        armed := (d.attempt a).2.armed }) ∧
    -- An allocation is stopped if the addresses do not suffice, and that leaves the device as it is.
    (∀ bytes, (∃ x, (d.attempt (.allocate bytes)).1 = .error (.defect x)) ↔
      .allocate ∉ d.armed ∧ Word.limit ≤ d.nextAddress + d.span bytes) ∧
    (∀ bytes x, (d.attempt (.allocate bytes)).1 = .error (.defect x) →
      (d.attempt (.allocate bytes)).2 = d) ∧
    -- However often a point is armed, one call fails there.
    ∀ (a : Attempt) (n : Nat) (xs ys : List Act), (∀ x ∈ xs, x ≠ .arm a.point) →
      (∀ y ∈ ys, y ≠ .arm a.point) →
      a.Heeds ((d.afterActs (List.replicate (n + 1) (.arm a.point))).afterActs xs) →
      ((d.afterActs (List.replicate (n + 1) (.arm a.point))).injected
        (xs ++ .attempt a :: ys)).count a.point = 1 := by
  refine ⟨fun a => attempt_of_armed, fun hcapture => ?idle, fun a => attempt_armed_of_notMem,
    fun a e h => attempt_eq_of_error (Prod.ext h rfl), fun bytes => allocate_defect_iff,
    fun bytes x h => attempt_eq_of_defect (Prod.ext h rfl),
    fun a n xs ys => count_injected_of_armed n⟩
  case idle => exact attempt_of_not_heeds fun h => h rfl hcapture

/-- Three times armed, the end of a capture fails once: not when none is open, and not again. -/
theorem faults_fire_once_endCapture :
    let acts : List Act := [.attempt .endCapture, .attempt (.beginCapture .relaxed),
      .attempt .endCapture, .attempt (.beginCapture .global), .attempt .endCapture]
    let d := sample.afterActs [.arm .endCapture, .arm .endCapture, .arm .endCapture]
    (d.injected acts).count .endCapture = 1 ∧ (d.afterActs acts).liveGraphs = [1] := by
  intro acts d
  obtain ⟨-, -, -, -, -, -, honce⟩ := faults_fire_once sample
  exact ⟨honce .endCapture 2 [.attempt .endCapture, .attempt (.beginCapture .relaxed)]
    [.attempt (.beginCapture .global), .attempt .endCapture] (by simp) (by simp)
    (fun _ => by decide), by decide⟩

end GraphReplay.Device
