import GraphReplay.Proofs.Books
import GraphReplay.Proofs.BuildSteps

/-!
# What requests do to a device

A request does what it is made for, or next to nothing: if the device refuses it,
a fault may be used up, and an open capture that was to be ended is closed. These
are all the ways (`after_effect`), so what every request leaves alone, and what
every request keeps up, is shown by going through the constructors of `Effect`.

* `Effect.alignment_eq`: no request changes the alignment;
* `Step.books`: whatever others do to a device, it makes at most one entry in its
  books, so the books of every reachable device are sound (`Reachable.sound`);
* `afterAll`: the device after some requests in turn;
* `Called`: a device comes from another one by requests. While the keys of a
  workspace are built, that is all that happens to its device (`BuildsKeys.called`).
-/

namespace GraphReplay

namespace Device

variable {held held' : List Buffer} {d d' d'' : Device} {c : Call}

/-- What a request can do to a device. -/
inductive Effect (d : Device) : Call → Device → Prop
  /-- At most, a fault is armed or used up. -/
  | slight (c : Call) (armed : List FaultPoint) : Effect d c { d with armed := armed }
  | begun (mode : CaptureMode) : d.capture = none →
      Effect d (.beginCapture mode) ({ d with capture := some [] }.record (.beginCapture mode))
  | ended {ops : List Op} : d.capture = some ops →
      Effect d .endCapture ({ d with capture := none
                                     lastHandle := d.lastHandle + 1
                                     liveGraphs := d.liveGraphs ++ [d.lastHandle + 1] }.record
        (.endCapture (d.lastHandle + 1) ops.length))
  /-- The capture is closed, and what it recorded is lost. -/
  | discarded (armed : List FaultPoint) :
      Effect d .endCapture { d with capture := none, armed := armed }
  | enqueued (op : Op) : Effect d (.enqueue op) (d.issue [op])
  | instantiated {g : Graph} : g.id ∈ d.liveGraphs →
      Effect d (.instantiate g) ({ d with lastHandle := d.lastHandle + 1
                                          liveExecutors := d.liveExecutors ++ [d.lastHandle + 1] }.record
        (.instantiate g.id (d.lastHandle + 1)))
  | launched {x : Executor} : x.id ∈ d.liveExecutors →
      Effect d (.launch x) ((d.record (.launch x.id)).issue x.ops)
  | rested : Effect d .synchronize (d.record .synchronize)
  | destroyedExecutor {x : Executor} : d.books.Has x.handle →
      Effect d (.destroyExecutor x) (d.without x.handle)
  | destroyedGraph {g : Graph} : d.books.Has g.handle →
      Effect d (.destroyGraph g) (d.without g.handle)

/-- A call that is guarded has the effect that it has if it succeeds, or none. -/
theorem guarded_effect {α : Type} {p : FaultPoint}
    {attempt : Except (Failure DeviceError) (α × Device)}
    (h : ∀ a d', d.guarded p attempt = (.ok a, d') → Effect d c d') :
    Effect d c (d.guarded p attempt).2 := by
  rcases hg : d.guarded p attempt with ⟨f | a, d'⟩
  · obtain ⟨armed, rfl⟩ := guarded_eq_error hg
    exact .slight c armed
  · exact h a d' hg

/-- Every request has one of these effects. -/
theorem after_effect (d : Device) (c : Call) : Effect d c (d.after c) := by
  cases c with
  | arm p =>
    rw [after, arm]
    split
    · exact .slight _ d.armed
    · exact .slight _ _
  | beginCapture mode =>
    refine guarded_effect fun u d' h => ?_
    obtain ⟨-, hcapture, rfl⟩ := beginCapture_eq_ok_iff.1 h
    exact .begun mode hcapture
  | endCapture =>
    rw [after]
    rcases h : d.endCapture with ⟨f | g, d'⟩
    · obtain ⟨armed, rfl⟩ := endCapture_eq_error h
      exact .discarded armed
    · obtain ⟨ops, hcapture, -, -, -, rfl⟩ := endCapture_eq_ok_iff.1 h
      exact .ended hcapture
  | enqueue op => exact .enqueued op
  | instantiate g =>
    refine guarded_effect fun x d' h => ?_
    obtain ⟨-, hg, -, -, rfl⟩ := instantiate_eq_ok_iff.1 h
    exact .instantiated hg
  | launch x =>
    refine guarded_effect fun u d' h => ?_
    obtain ⟨-, hx, rfl⟩ := launch_eq_ok_iff.1 h
    exact .launched hx
  | synchronize =>
    refine guarded_effect fun u d' h => ?_
    obtain ⟨-, rfl⟩ := synchronize_eq_ok_iff.1 h
    exact .rested
  | destroyExecutor x =>
    refine guarded_effect fun u d' h => ?_
    obtain ⟨-, hx, rfl⟩ := destroyExecutor_eq_ok_iff.1 h
    exact .destroyedExecutor hx
  | destroyGraph g =>
    refine guarded_effect fun u d' h => ?_
    obtain ⟨-, hg, rfl⟩ := destroyGraph_eq_ok_iff.1 h
    exact .destroyedGraph hg

/-! ## The alignment -/

theorem Effect.alignment_eq (h : Effect d c d') : d'.alignment = d.alignment := by
  cases h with
  | slight => rfl
  | begun => rfl
  | ended => rfl
  | discarded => rfl
  | enqueued => exact issue_alignment _ _
  | instantiated => rfl
  | launched => exact issue_alignment _ _
  | rested => rfl
  | destroyedExecutor => rfl
  | destroyedGraph => rfl

theorem after_alignment (d : Device) (c : Call) : (d.after c).alignment = d.alignment :=
  (after_effect d c).alignment_eq

/-- No step changes the alignment. -/
theorem Step.alignment_eq (h : Step held d held' d') : d'.alignment = d.alignment := by
  cases h with
  | call c => exact after_alignment d c
  | allocate h => exact alignment_of_answer (allocate_alignment d _) h
  | refuse h => exact alignment_of_answer (allocate_alignment d _) h
  | free _ => rfl

/-! ## Entries in the books -/

/-- A call that makes a handle gives it the next number. -/
theorem books_made (held : List Buffer) (k : Kind) {e : Event}
    (hmade : e.made? = some ⟨k, d.lastHandle + 1⟩) (hdestroyed : e.destroyed? = none)
    (hfreed : e.freed? = none)
    (hd : d'.books = ({ d.books with lastHandle := d.lastHandle + 1 }.setLive k
      (d.books.live k ++ [d.lastHandle + 1])).record e) :
    Books.Step held d.books held d'.books := by
  rw [hd]
  exact .made held d.books k hmade hdestroyed hfreed

theorem Effect.books_step (held : List Buffer) (h : Effect d c d') :
    Books.Step held d.books held d'.books := by
  cases h with
  | slight => exact .quiet held d.books
  | begun => exact .told held d.books rfl rfl rfl
  | ended =>
    refine books_made held .graph rfl rfl rfl (congrArg (Books.mk _ _ _ · _) (funext fun k => ?_))
    cases k <;> rfl
  | discarded => exact .quiet held d.books
  | enqueued =>
    rw [issue_books]
    exact .quiet held d.books
  | instantiated =>
    refine books_made held .executor rfl rfl rfl (congrArg (Books.mk _ _ _ · _) (funext fun k => ?_))
    cases k <;> rfl
  | launched =>
    rw [issue_books]
    exact .told held d.books rfl rfl rfl
  | rested => exact .told held d.books rfl rfl rfl
  | destroyedExecutor hx =>
    rw [without_books]
    exact .destroyed held hx
  | destroyedGraph hg =>
    rw [without_books]
    exact .destroyed held hg

/-- A call that hands no memory out makes one entry at most. -/
theorem after_books (held : List Buffer) (d : Device) (c : Call) :
    Books.Step held d.books held (d.after c).books :=
  (after_effect d c).books_step held

theorem span_pos (d : Device) (bytes : Nat) : 0 < d.span bytes :=
  Nat.lt_of_lt_of_le d.alignment.bytes_pos (Nat.le_add_left _ _)

/-- Whatever others do to a device, it makes one entry at most. -/
theorem Step.books (h : Step held d held' d') : Books.Step held d.books held' d'.books := by
  cases h with
  | call c => exact after_books held d c
  | allocate h =>
    obtain ⟨-, -, rfl, rfl⟩ := allocate_eq_ok_iff.1 h
    exact .allocated held d.books _ (d.span_pos _)
  | refuse h =>
    obtain ⟨armed, rfl⟩ := guarded_eq_error h
    exact .quiet held d.books
  | free hq => exact .freed d.books hq

/-- The books of every reachable device are sound. -/
theorem Reachable.sound (h : d.Reachable held) : d.books.Sound held := by
  induction h with
  | create h =>
    obtain ⟨a, ha, h⟩ := Failure.bind_eq_ok_iff.1 h
    cases h
    refine ⟨⟨fun k => ?_, fun h => ?_, ?_, ?_⟩, ⟨rfl, ?_, ?_, ?_, ?_⟩⟩
    · cases k <;> exact List.nodup_nil
    · obtain ⟨_ | _, id⟩ := h <;> simp [Books.Has, books, Handle.LiveIn, Event.madeIn]
    all_goals simp [books, Event.madeIn, Event.destroyedIn, Event.freedIn]
  | step _ hstep ih => exact hstep.books.sound ih

/-! ## Requests in turn -/

/-- The device after some requests in turn. -/
def afterAll (d : Device) : List Call → Device
  | [] => d
  | c :: cs => (d.after c).afterAll cs

theorem afterAll_append (d : Device) (cs cs' : List Call) :
    d.afterAll (cs ++ cs') = (d.afterAll cs).afterAll cs' := by
  induction cs generalizing d with
  | nil => rfl
  | cons c cs ih => exact ih (d.after c)

/-- What every request keeps is kept by any number of them. -/
theorem afterAll_induct {I : Device → Prop} (hstep : ∀ d c, I d → I (d.after c)) (hd : I d)
    (cs : List Call) : I (d.afterAll cs) := by
  induction cs generalizing d with
  | nil => exact hd
  | cons c cs ih => exact ih (hstep d c hd)

/-- The second device comes from the first one by requests. -/
def Called (d d' : Device) : Prop := ∃ cs, d.afterAll cs = d'

theorem Called.refl (d : Device) : d.Called d := ⟨[], rfl⟩

theorem Called.trans (h : d.Called d') (h' : d'.Called d'') : d.Called d'' := by
  obtain ⟨cs, rfl⟩ := h
  obtain ⟨cs', rfl⟩ := h'
  exact ⟨cs ++ cs', d.afterAll_append cs cs'⟩

theorem called_after (d : Device) (c : Call) : d.Called (d.after c) := ⟨[c], rfl⟩

/-- What every request keeps is kept on the way to a device that comes by requests. -/
theorem Called.induct {I : Device → Prop} (h : d.Called d') (hstep : ∀ d c, I d → I (d.after c))
    (hd : I d) : I d' := by
  obtain ⟨cs, rfl⟩ := h
  exact afterAll_induct hstep hd cs

/-- A reachable device stays one. -/
theorem Called.reachable (h : d.Called d') (hd : d.Reachable held) : d'.Reachable held :=
  h.induct (fun d c hd => hd.step (.call held d c)) hd

/-- A device keeps its alignment. -/
theorem Called.alignment_eq (h : d.Called d') : d'.alignment = d.alignment :=
  h.induct (I := fun d₁ => d₁.alignment = d.alignment)
    (fun d₁ c h₁ => (d₁.after_alignment c).trans h₁) rfl

/-- The books stay sound. -/
theorem Called.sound (h : d.Called d') (hd : d.books.Sound held) : d'.books.Sound held :=
  h.induct (fun d c hd => (d.after_books held c).sound hd) hd

theorem called_of_beginCapture {mode : CaptureMode} {answer : Except (Failure DeviceError) Unit}
    (h : d.beginCapture mode = (answer, d')) : d.Called d' := by
  have hcalled := d.called_after (.beginCapture mode)
  rwa [after, h] at hcalled

theorem called_of_endCapture {answer : Except (Failure DeviceError) Graph}
    (h : d.endCapture = (answer, d')) : d.Called d' := by
  have hcalled := d.called_after .endCapture
  rwa [after, h] at hcalled

theorem called_of_instantiate {g : Graph} {answer : Except (Failure DeviceError) Executor}
    (h : d.instantiate g = (answer, d')) : d.Called d' := by
  have hcalled := d.called_after (.instantiate g)
  rwa [after, h] at hcalled

end Device

/-! ## Requests of a build -/

namespace Workspace

variable {w w' : Workspace} {key : Key} {m : Model} {mode : CaptureMode} {scratch : Address}

theorem abandoned_called (d : Device) (name : String) (e : ModelError) :
    d.Called (abandoned d name e).2 := by
  rw [abandoned]
  rcases h : d.endCapture with ⟨(_ | x) | g, d'⟩
  · exact Device.called_of_endCapture h
  · exact Device.called_of_endCapture h
  · exact (Device.called_of_endCapture h).trans (d'.called_after (.destroyGraph g))

theorem Captures.called {c : Context} {ps : List Address} {d d' : Device} {r : Except Abort Graph}
    (h : Captures mode key c ps d r d') : d.Called d' := by
  cases h with
  | notBegun hb => exact Device.called_of_beginCapture hb
  | refused hb _ => exact (Device.called_of_beginCapture hb).trans (abandoned_called _ _ _)
  | @notEnded d₁ _ op _ hb _ he =>
    have henqueued := (Device.called_of_beginCapture hb).trans (d₁.called_after (.enqueue op))
    exact henqueued.trans (Device.called_of_endCapture he)
  | @captured d₁ _ op _ hb _ he =>
    have henqueued := (Device.called_of_beginCapture hb).trans (d₁.called_after (.enqueue op))
    exact henqueued.trans (Device.called_of_endCapture he)

theorem BuildsKey.called {r : Except Abort Unit} (h : BuildsKey mode scratch key m w r w') :
    w.device.Called w'.device := by
  have hcaptures {c : Context} {ps : List Address} {w₁ : Workspace} {answer : Except Abort Graph}
      {d : Device} (hp : Places key.name m (w.prepared key c scratch) (.ok ps) w₁)
      (hcap : Captures mode key (c.setScratch scratch) ps w₁.device answer d) :
      w.device.Called d := by
    rw [hp.device_eq] at hcap
    exact hcap.called
  cases h with
  | contextless _ => exact .refl _
  | unplaced _ hp => exact hp.device_eq ▸ .refl _
  | uncaptured _ hp hcap => exact hcaptures hp hcap
  | uninstantiated _ hp hcap hi =>
    exact (hcaptures hp hcap).trans (Device.called_of_instantiate hi)
  | built _ hp hcap hi => exact (hcaptures hp hcap).trans (Device.called_of_instantiate hi)

/-- Keys are built by requests to the device. -/
theorem BuildsKeys.called {entries : List (Key × Model)} {r : Except Abort Unit}
    (h : BuildsKeys mode scratch entries w r w') : w.device.Called w'.device := by
  induction h with
  | nil => exact .refl _
  | stop hkey => exact hkey.called
  | cons hkey _ ih => exact hkey.called.trans ih

end Workspace

end GraphReplay
