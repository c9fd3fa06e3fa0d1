import GraphReplay.Proofs.Ownership

/-!
# The log of a device is its history

Read from the start, the log of a device tells what is live at each point: what an
allocation or a handle begins, what a release ends, and which handles may be used
in between (`Census.enter`). A log that is no history of a device gets stuck, at a
number that was given out before, at a second release, or at a use of what is not
live. The log of a reachable device never does, and what is live at its end is
what the device has.

* `Census.replay`: the log read from the start;
* `Device.Reachable.fits`: it reads through, by induction on the steps;
* `Books.Once`: what is given out or destroyed is so once;
* `log_is_history`: all of this together.
-/

namespace GraphReplay

/-! ## Reading a log -/

/-- What is live, as far as a log was read. -/
structure Census where
  buffers : List Address := []
  /-- The numbers given out so far, to graphs and to executors. -/
  numbers : List Nat := []
  graphs : List Nat := []
  executors : List Nat := []
  deriving DecidableEq, Repr

namespace Census

/-- Read one event. There is no answer if it cannot happen. -/
def enter (s : Census) : Event → Option Census
  | .allocate p _ => if p ∈ s.buffers then none else some { s with buffers := p :: s.buffers }
  | .free p => if p ∈ s.buffers then some { s with buffers := s.buffers.erase p } else none
  | .beginCapture _ => some s
  | .endCapture g _ =>
    if g ∈ s.numbers then none
    else some { s with numbers := s.numbers ++ [g], graphs := s.graphs ++ [g] }
  | .instantiate g x =>
    if g ∉ s.graphs ∨ x ∈ s.numbers then none
    else some { s with numbers := s.numbers ++ [x], executors := s.executors ++ [x] }
  | .launch x => if x ∈ s.executors then some s else none
  | .synchronize => some s
  | .destroyExecutor x =>
    if x ∈ s.executors then some { s with executors := s.executors.filter (· ≠ x) } else none
  | .destroyGraph g =>
    if g ∈ s.graphs then some { s with graphs := s.graphs.filter (· ≠ g) } else none

/-- Read a log from the start. -/
def replay (log : List Event) : Option Census := log.foldlM enter {}

theorem replay_concat (log : List Event) (e : Event) :
    replay (log ++ [e]) = (replay log).bind (·.enter e) := by
  simp [replay, List.foldlM_append]

/-- The live handles of a kind. -/
def live (s : Census) : Kind → List Nat
  | .graph => s.graphs
  | .executor => s.executors

/-! ## The log and the books -/

/-- The log in the books reads through, and tells what the books have and what is held. -/
structure Fits (s : Census) (b : Books) (held : List Buffer) : Prop where
  replayed : replay b.events = some s
  buffers : s.buffers.Perm (held.map Buffer.address)
  numbers : ∀ n ∈ s.numbers, n ≤ b.lastHandle
  live : ∀ k, s.live k = b.live k

variable {s s' : Census} {b b' : Books} {held held' : List Buffer}

theorem Fits.mem_iff (hs : s.Fits b held) {h : Handle} : h.id ∈ s.live h.kind ↔ b.Has h := by
  rw [hs.live, Books.Has]

theorem Fits.fresh (hs : s.Fits b held) : b.lastHandle + 1 ∉ s.numbers := fun hmem =>
  Nat.not_succ_le_self _ (hs.numbers _ hmem)

/-- One more event that can be read. -/
theorem Fits.enter (hs : s.Fits b held) {e : Event} (he : s.enter e = some s')
    (hevents : b'.events = b.events ++ [e]) (hbuffers : s'.buffers.Perm (held'.map Buffer.address))
    (hnumbers : ∀ n ∈ s'.numbers, n ≤ b'.lastHandle) (hlive : ∀ k, s'.live k = b'.live k) :
    s'.Fits b' held' where
  replayed := by rw [hevents, replay_concat, hs.replayed, Option.bind_some, he]
  buffers := hbuffers
  numbers := hnumbers
  live := hlive

/-- An event that changes nothing. -/
theorem Fits.record (hs : s.Fits b held) {e : Event} (he : s.enter e = some s) :
    s.Fits (b.record e) held :=
  hs.enter he rfl hs.buffers hs.numbers hs.live

/-- A new number is given out. -/
theorem Fits.made (hs : s.Fits b held) (k : Kind) {e : Event} (he : s.enter e = some s')
    (hbuffers : s'.buffers = s.buffers) (hnumbers : s'.numbers = s.numbers ++ [b.lastHandle + 1])
    (hlive : ∀ k', s'.live k' = if k' = k then s.live k ++ [b.lastHandle + 1] else s.live k') :
    s'.Fits (({ b with lastHandle := b.lastHandle + 1 }.setLive k
      (b.live k ++ [b.lastHandle + 1])).record e) held := by
  refine hs.enter he rfl (hbuffers ▸ hs.buffers) (fun n hn => ?_) fun k' => ?_
  · rw [hnumbers, List.mem_append, List.mem_singleton] at hn
    rcases hn with hn | rfl
    · exact Nat.le_succ_of_le (hs.numbers n hn)
    · exact Nat.le_refl _
  · rw [hlive, hs.live, hs.live]
    rfl

/-- A handle is destroyed. -/
theorem Fits.destroyed (hs : s.Fits b held) {h : Handle} (hh : b.Has h) :
    ∃ s', Fits s' ((b.setLive h.kind ((b.live h.kind).filter (· ≠ h.id))).record
      (.destroying h)) held := by
  have hmem := hs.mem_iff.2 hh
  have hgraphs : s.graphs = b.live .graph := hs.live .graph
  have hexecutors : s.executors = b.live .executor := hs.live .executor
  obtain ⟨_ | _, id⟩ := h
  · refine ⟨_, hs.enter (e := .destroyGraph id) (if_pos hmem) rfl hs.buffers hs.numbers fun k => ?_⟩
    cases k <;> simp [Census.live, Books.record, Books.setLive, hgraphs, hexecutors]
  · refine ⟨_, hs.enter (e := .destroyExecutor id) (if_pos hmem) rfl hs.buffers hs.numbers
      fun k => ?_⟩
    cases k <;> simp [Census.live, Books.record, Books.setLive, hgraphs, hexecutors]

/-- Memory is handed out where none is held. -/
theorem Fits.allocated (hs : s.Fits b held) (hb : b.Covers held) (bytes : Nat) {span : Nat} :
    ∃ s', Fits s' ({ b with nextAddress := b.nextAddress + span
                            liveBuffers := b.liveBuffers + 1 }.record
      (.allocate ⟨b.nextAddress⟩ bytes)) (⟨⟨b.nextAddress⟩, bytes⟩ :: held) := by
  have hnew : (⟨b.nextAddress⟩ : Address) ∉ s.buffers := fun hmem => by
    obtain ⟨q, hq, haddress⟩ := List.mem_map.1 (hs.buffers.mem_iff.1 hmem)
    have hlt := hb.below q hq
    rw [haddress] at hlt
    exact Nat.lt_irrefl _ hlt
  exact ⟨_, hs.enter (e := .allocate _ bytes) (if_neg hnew) rfl (hs.buffers.cons _) hs.numbers hs.live⟩

/-- Memory that is held is taken back. -/
theorem Fits.freed (hs : s.Fits b held) {q : Buffer} (hq : q ∈ held) :
    ∃ s', Fits s' ({ b with liveBuffers := b.liveBuffers - 1 }.record (.free q.address))
      (held.erase q) := by
  have hmem : q.address ∈ s.buffers := hs.buffers.mem_iff.2 (List.mem_map_of_mem hq)
  refine ⟨_, hs.enter (e := .free q.address) (if_pos hmem) rfl ?_ hs.numbers hs.live⟩
  have hperm : s.buffers.Perm (q.address :: (held.erase q).map Buffer.address) :=
    hs.buffers.trans ((List.perm_cons_erase hq).map Buffer.address)
  simpa using hperm.erase q.address

end Census

namespace Device

variable {held held' : List Buffer} {d d' : Device} {s : Census}

/-- What a request does to a device can be read in its log. -/
theorem Effect.fits {c : Call} (hs : s.Fits d.books held) (h : Effect d c d') :
    ∃ s', Census.Fits s' d'.books held := by
  cases h with
  | slight => exact ⟨s, hs⟩
  | begun mode _ => exact ⟨s, hs.record (e := .beginCapture mode) rfl⟩
  | @ended ops _ =>
    have hmade := hs.made .graph (e := .endCapture (d.lastHandle + 1) ops.length)
      (if_neg hs.fresh) rfl rfl fun k => by cases k <;> rfl
    exact ⟨_, hmade.replayed, hmade.buffers, hmade.numbers, fun k => (hmade.live k).trans
      (by cases k <;> rfl)⟩
  | discarded => exact ⟨s, hs⟩
  | enqueued op => exact ⟨s, d.issue_books [op] ▸ hs⟩
  | @instantiated g hg =>
    have hg : g.id ∈ s.graphs := hs.mem_iff (h := g.handle) |>.2 hg
    have hmade := hs.made .executor (e := .instantiate g.id (d.lastHandle + 1))
      (if_neg (not_or_intro (not_not_intro hg) hs.fresh)) rfl rfl fun k => by cases k <;> rfl
    exact ⟨_, hmade.replayed, hmade.buffers, hmade.numbers, fun k => (hmade.live k).trans
      (by cases k <;> rfl)⟩
  | @launched x hx =>
    rw [issue_books]
    exact ⟨s, hs.record (e := .launch x.id) (if_pos (hs.mem_iff (h := x.handle) |>.2 hx))⟩
  | rested => exact ⟨s, hs.record (e := .synchronize) rfl⟩
  | destroyedExecutor hx => exact without_books d _ ▸ hs.destroyed hx
  | destroyedGraph hg => exact without_books d _ ▸ hs.destroyed hg

theorem Step.fits (hd : d.books.Sound held) (hs : s.Fits d.books held)
    (h : Step held d held' d') : ∃ s', Census.Fits s' d'.books held' := by
  cases h with
  | call c => exact (after_effect d c).fits hs
  | allocate h =>
    obtain ⟨-, -, rfl, rfl⟩ := allocate_eq_ok_iff.1 h
    exact hs.allocated hd.covers _
  | refuse h =>
    obtain ⟨armed, rfl⟩ := guarded_eq_error h
    exact ⟨s, hs⟩
  | free hq => exact hs.freed hq

/-- The log of every reachable device reads through. -/
theorem Reachable.fits (h : d.Reachable held) : ∃ s, Census.Fits s d.books held := by
  induction h with
  | create h =>
    obtain ⟨a, ha, h⟩ := Failure.bind_eq_ok_iff.1 h
    cases h
    exact ⟨{}, rfl, .nil, nofun, fun k => by cases k <;> rfl⟩
  | step hd hstep ih =>
    obtain ⟨s, hs⟩ := ih
    exact hstep.fits hd.sound hs

end Device

/-! ## Once and for all -/

/-- No number is given out twice, to whatever, and nothing is destroyed twice. -/
structure Books.Once (b : Books) : Prop where
  made : ((Event.madeIn b.events).map Handle.id).Nodup
  destroyed : (Event.destroyedIn b.events).Nodup

variable {b b' : Books} {held held' : List Buffer}

theorem Books.Once.record (hb : b.Once) {e : Event} (hmade : e.made? = none)
    (hdestroyed : e.destroyed? = none) : (b.record e).Once where
  made := by simpa [Books.record, hmade] using hb.made
  destroyed := by simpa [Books.record, hdestroyed] using hb.destroyed

theorem Books.Step.once (ht : b.Tallied) (hb : b.Once) (h : Step held b held' b') : b'.Once := by
  cases h with
  | quiet => exact hb
  | told hmade hdestroyed _ => exact hb.record hmade hdestroyed
  | @made k e hmade hdestroyed _ =>
    refine ⟨?_, by simpa [Books.record, Books.setLive, hdestroyed] using hb.destroyed⟩
    have hnew : b.lastHandle + 1 ∉ (Event.madeIn b.events).map Handle.id := fun hmem => by
      obtain ⟨h, hh, hid⟩ := List.mem_map.1 hmem
      exact Nat.not_succ_le_self _ (hid ▸ ht.made_le h hh)
    simp only [Books.record, Books.setLive, Event.madeIn_concat, hmade, Option.toList_some,
      List.map_append, List.map_singleton]
    exact List.concat_eq_append ▸ hb.made.concat hnew
  | @destroyed h hh =>
    refine ⟨by simpa [Books.record, Books.setLive] using hb.made, ?_⟩
    simp only [Books.record, Books.setLive, Event.destroyedIn_concat, Event.destroyed?_destroying,
      Option.toList_some]
    exact List.concat_eq_append ▸ hb.destroyed.concat ((ht.has_iff h).1 hh).2
  | allocated bytes =>
    have hrecord := hb.record (e := .allocate ⟨b.nextAddress⟩ bytes) rfl rfl
    exact ⟨hrecord.made, hrecord.destroyed⟩
  | @freed q _ =>
    have hrecord := hb.record (e := .free q.address) rfl rfl
    exact ⟨hrecord.made, hrecord.destroyed⟩

namespace Device

variable {d : Device}

theorem Reachable.once (h : d.Reachable held) : d.books.Once := by
  induction h with
  | create h =>
    obtain ⟨a, ha, h⟩ := Failure.bind_eq_ok_iff.1 h
    cases h
    exact ⟨.nil, .nil⟩
  | step hd hstep ih => exact hstep.books.once hd.sound.tallied ih

/-- The log of a device is a history that explains what the device has, whatever was asked of it.
    Read from the start it never gets stuck, and what is live at its end are the graphs and the
    executors that are live on the device, and as many allocations, namely those that are held.
    So no number is given out twice, be it to graphs or to executors, nothing is destroyed twice,
    and nothing can be taken back while the device counts no allocation. -/
theorem log_is_history (h : d.Reachable held) :
    ∃ s, Census.replay d.events = some s ∧ s.graphs = d.liveGraphs ∧
      s.executors = d.liveExecutors ∧ s.buffers.length = d.liveBuffers ∧
      s.buffers.Perm (held.map Buffer.address) ∧
      d.liveGraphs.Nodup ∧ d.liveExecutors.Nodup ∧
      ((Event.madeIn d.events).map Handle.id).Nodup ∧ (Event.destroyedIn d.events).Nodup ∧
      ∀ b ∈ held, 0 < d.liveBuffers := by
  obtain ⟨s, hs⟩ := h.fits
  have hcount : held.length = d.liveBuffers := h.sound.covers.count.symm
  refine ⟨s, hs.replayed, hs.live .graph, hs.live .executor, ?_, hs.buffers,
    h.sound.tallied.nodup .graph, h.sound.tallied.nodup .executor, h.once.made, h.once.destroyed,
    fun b hb => ?_⟩
  · rw [hs.buffers.length_eq, List.length_map, hcount]
  · exact hcount ▸ List.length_pos_of_mem hb

/-- A device that handed memory out, lost a capture to a fault, and was asked for a graph of another
    device, for an executor that it never had, and twice for the end of one graph. -/
def sampleUsed : Device :=
  (sample.allocate 10).2.afterAll
    [.arm .endCapture, .beginCapture .relaxed, .endCapture, .beginCapture .relaxed, .endCapture,
      .instantiate ⟨9, []⟩, .instantiate ⟨1, []⟩, .launch ⟨1, []⟩, .launch ⟨2, []⟩,
      .destroyGraph ⟨1, []⟩, .destroyGraph ⟨1, []⟩]

theorem sampleUsed_reachable : sampleUsed.Reachable [⟨⟨1000⟩, 10⟩] :=
  have hallocate : sample.allocate 10 = (.ok ⟨⟨1000⟩, 10⟩, (sample.allocate 10).2) := rfl
  Called.reachable ⟨_, rfl⟩ (sample_reachable.step (.allocate hallocate))

/-- Only what was done is in the log, and it accounts for what is live. -/
theorem sampleUsed_log :
    sampleUsed.events = [.allocate ⟨1000⟩ 10, .beginCapture .relaxed, .beginCapture .relaxed,
        .endCapture 1 0, .instantiate 1 2, .launch 2, .destroyGraph 1] ∧
      ∃ s, Census.replay sampleUsed.events = some s ∧ s.graphs = [] ∧ s.executors = [2] ∧
        s.buffers.length = 1 := by
  obtain ⟨s, hs, hgraphs, hexecutors, hcount, -⟩ := log_is_history sampleUsed_reachable
  exact ⟨by decide +kernel, s, hs, hgraphs, hexecutors, hcount⟩

end Device

end GraphReplay
