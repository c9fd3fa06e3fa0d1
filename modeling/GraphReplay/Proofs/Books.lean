import GraphReplay.Proofs.Reachable
import Mathlib.Data.List.Nodup

/-!
# The books of a device

What a device knows about its memory and about the graphs and executors that it
numbers: where the next allocation begins, the last number given out, what is
live, and the log. There are only a few kinds of entries in these books
(`Books.Step`).

* `Handle.LiveIn`: what is live, as the log tells it;
* `Books.Sound`: the books agree with their log and with what is held of the
  memory; numbers and addresses are used once;
* `Books.Step.sound`: whatever is entered, they stay sound.
-/

namespace GraphReplay

/-! ## Handles -/

/-- The two kinds of things that a device knows by number. -/
inductive Kind
  | graph
  | executor
  deriving DecidableEq, Repr

/-- Something that a device knows by number. -/
structure Handle where
  kind : Kind
  id : Nat
  deriving DecidableEq, Repr

/-- A graph, as the device knows it. -/
def Graph.handle (g : Graph) : Handle := ⟨.graph, g.id⟩

/-- An executor, as the device knows it. -/
def Executor.handle (e : Executor) : Handle := ⟨.executor, e.id⟩

namespace Event

/-- What an event made. -/
def made? : Event → Option Handle
  | .endCapture id _ => some ⟨.graph, id⟩
  | .instantiate _ id => some ⟨.executor, id⟩
  | _ => none

/-- What an event destroyed. -/
def destroyed? : Event → Option Handle
  | .destroyGraph id => some ⟨.graph, id⟩
  | .destroyExecutor id => some ⟨.executor, id⟩
  | _ => none

/-- The allocation that an event took back. -/
def freed? : Event → Option Address
  | .free p => some p
  | _ => none

/-- The event of destroying a handle. -/
def destroying : Handle → Event
  | ⟨.graph, id⟩ => .destroyGraph id
  | ⟨.executor, id⟩ => .destroyExecutor id

@[simp] theorem made?_destroying (h : Handle) : (destroying h).made? = none := by
  obtain ⟨_ | _, id⟩ := h <;> rfl

@[simp] theorem freed?_destroying (h : Handle) : (destroying h).freed? = none := by
  obtain ⟨_ | _, id⟩ := h <;> rfl

@[simp] theorem destroyed?_destroying (h : Handle) : (destroying h).destroyed? = some h := by
  obtain ⟨_ | _, id⟩ := h <;> rfl

/-- What was made, by the log. -/
def madeIn (log : List Event) : List Handle := log.filterMap made?

/-- What was destroyed, by the log. -/
def destroyedIn (log : List Event) : List Handle := log.filterMap destroyed?

/-- The allocations that were taken back, by the log. -/
def freedIn (log : List Event) : List Address := log.filterMap freed?

/-- What one more event tells comes last. -/
theorem filterMap_concat {α : Type} (f : Event → Option α) (log : List Event) (e : Event) :
    (log ++ [e]).filterMap f = log.filterMap f ++ (f e).toList := by
  rw [List.filterMap_append]
  cases h : f e <;> simp [h]

@[simp] theorem madeIn_concat (log : List Event) (e : Event) :
    madeIn (log ++ [e]) = madeIn log ++ e.made?.toList :=
  filterMap_concat made? log e

@[simp] theorem destroyedIn_concat (log : List Event) (e : Event) :
    destroyedIn (log ++ [e]) = destroyedIn log ++ e.destroyed?.toList :=
  filterMap_concat destroyed? log e

@[simp] theorem freedIn_concat (log : List Event) (e : Event) :
    freedIn (log ++ [e]) = freedIn log ++ e.freed?.toList :=
  filterMap_concat freed? log e

end Event

/-- The log tells that the handle is live: it was made and not destroyed. -/
def Handle.LiveIn (h : Handle) (log : List Event) : Prop :=
  h ∈ Event.madeIn log ∧ h ∉ Event.destroyedIn log

namespace Handle

instance (h : Handle) (log : List Event) : Decidable (h.LiveIn log) :=
  inferInstanceAs (Decidable (h ∈ Event.madeIn log ∧ h ∉ Event.destroyedIn log))

variable {h h' : Handle} {log : List Event} {e : Event}

theorem liveIn_told (hmade : e.made? = none) (hdestroyed : e.destroyed? = none) :
    h.LiveIn (log ++ [e]) ↔ h.LiveIn log := by
  simp [LiveIn, hmade, hdestroyed]

theorem liveIn_made (hmade : e.made? = some h') (hdestroyed : e.destroyed? = none)
    (hnew : h' ∉ Event.destroyedIn log) : h.LiveIn (log ++ [e]) ↔ h.LiveIn log ∨ h = h' := by
  by_cases hh : h = h'
  · simp [LiveIn, hmade, hdestroyed, hh, hnew]
  · simp [LiveIn, hmade, hdestroyed, hh]

theorem liveIn_destroyed (hmade : e.made? = none) (hdestroyed : e.destroyed? = some h') :
    h.LiveIn (log ++ [e]) ↔ h.LiveIn log ∧ h ≠ h' := by
  simp [LiveIn, hmade, hdestroyed, and_assoc]

end Handle

/-! ## Books -/

/-- What a device knows about memory and handles. -/
structure Books where
  nextAddress : Nat
  lastHandle : Nat
  liveBuffers : Nat
  live : Kind → List Nat
  events : List Event

namespace Books

/-- The handle is live. -/
def Has (b : Books) (h : Handle) : Prop := h.id ∈ b.live h.kind

/-- The books with other live handles of one kind. -/
def setLive (b : Books) (k : Kind) (ids : List Nat) : Books :=
  { b with live := fun k' => if k' = k then ids else b.live k' }

/-- The books with one more event. -/
def record (b : Books) (e : Event) : Books := { b with events := b.events ++ [e] }

/-- What can be entered into the books at once, and the allocations that are held before and
    after. -/
inductive Step : List Buffer → Books → List Buffer → Books → Prop
  | quiet (held : List Buffer) (b : Books) : Step held b held b
  /-- An event that concerns neither memory nor handles. -/
  | told (held : List Buffer) (b : Books) {e : Event} : e.made? = none → e.destroyed? = none →
      e.freed? = none → Step held b held (b.record e)
  | made (held : List Buffer) (b : Books) (k : Kind) {e : Event} :
      e.made? = some ⟨k, b.lastHandle + 1⟩ → e.destroyed? = none → e.freed? = none →
      Step held b held (({ b with lastHandle := b.lastHandle + 1 }.setLive k
        (b.live k ++ [b.lastHandle + 1])).record e)
  | destroyed (held : List Buffer) {b : Books} {h : Handle} : b.Has h →
      Step held b held ((b.setLive h.kind ((b.live h.kind).filter (· ≠ h.id))).record
        (.destroying h))
  | allocated (held : List Buffer) (b : Books) (bytes : Nat) {span : Nat} : 0 < span →
      Step held b (⟨⟨b.nextAddress⟩, bytes⟩ :: held)
        ({ b with nextAddress := b.nextAddress + span
                  liveBuffers := b.liveBuffers + 1 }.record (.allocate ⟨b.nextAddress⟩ bytes))
  | freed {held : List Buffer} (b : Books) {q : Buffer} : q ∈ held →
      Step held b (held.erase q)
        ({ b with liveBuffers := b.liveBuffers - 1 }.record (.free q.address))

/-- What is live is what the log says was made and not destroyed, and no number above the last one
    was ever used. -/
structure Tallied (b : Books) : Prop where
  nodup : ∀ k, (b.live k).Nodup
  has_iff : ∀ h, b.Has h ↔ h.LiveIn b.events
  made_le : ∀ h ∈ Event.madeIn b.events, h.id ≤ b.lastHandle
  destroyed_le : ∀ h ∈ Event.destroyedIn b.events, h.id ≤ b.lastHandle

/-- What is held is live and was not taken back, and no address from the next one on was ever
    used. -/
structure Covers (b : Books) (held : List Buffer) : Prop where
  count : b.liveBuffers = held.length
  distinct : (held.map Buffer.address).Nodup
  below : ∀ q ∈ held, q.address.toNat < b.nextAddress
  freed_below : ∀ p ∈ Event.freedIn b.events, p.toNat < b.nextAddress
  kept : ∀ q ∈ held, q.address ∉ Event.freedIn b.events

variable {held held' : List Buffer} {b b' : Books} {h : Handle} {e : Event}

/-! ## Handles in the books -/

theorem nodup_setLive {k : Kind} {ids : List Nat} (hb : ∀ k, (b.live k).Nodup) (hids : ids.Nodup)
    (k' : Kind) : ((b.setLive k ids).live k').Nodup := by
  simp only [setLive]
  split
  · exact hids
  · exact hb k'

theorem has_setLive_concat {k : Kind} {id : Nat} :
    (b.setLive k (b.live k ++ [id])).Has h ↔ b.Has h ∨ h = ⟨k, id⟩ := by
  obtain ⟨k', id'⟩ := h
  by_cases hk : k' = k <;> simp [Has, setLive, hk]

theorem has_setLive_filter {h' : Handle} :
    (b.setLive h'.kind ((b.live h'.kind).filter (· ≠ h'.id))).Has h ↔ b.Has h ∧ h ≠ h' := by
  obtain ⟨k, id⟩ := h
  obtain ⟨k', id'⟩ := h'
  by_cases hk : k = k' <;> simp [Has, setLive, hk]

/-- What is live has a number that was given out. -/
theorem Tallied.id_le (hb : b.Tallied) (hh : b.Has h) : h.id ≤ b.lastHandle :=
  hb.made_le h ((hb.has_iff h).1 hh).1

/-- An event that is not about handles. -/
theorem Tallied.record (hb : b.Tallied) (hmade : e.made? = none)
    (hdestroyed : e.destroyed? = none) : (b.record e).Tallied where
  nodup := hb.nodup
  has_iff h := (hb.has_iff h).trans (Handle.liveIn_told hmade hdestroyed).symm
  made_le := by simpa [Books.record, hmade] using hb.made_le
  destroyed_le := by simpa [Books.record, hdestroyed] using hb.destroyed_le

/-- A new handle has a new number. -/
theorem Tallied.made (hb : b.Tallied) (k : Kind) (hmade : e.made? = some ⟨k, b.lastHandle + 1⟩)
    (hdestroyed : e.destroyed? = none) :
    (({ b with lastHandle := b.lastHandle + 1 }.setLive k
      (b.live k ++ [b.lastHandle + 1])).record e).Tallied := by
  have hnew : b.lastHandle + 1 ∉ b.live k := fun hid =>
    Nat.not_succ_le_self _ (hb.id_le (h := ⟨k, _⟩) hid)
  have hundestroyed : ⟨k, b.lastHandle + 1⟩ ∉ Event.destroyedIn b.events := fun hmem =>
    Nat.not_succ_le_self _ (hb.destroyed_le _ hmem)
  refine ⟨nodup_setLive hb.nodup ?_, fun h => ?_, fun h hmem => ?_, fun h hmem => ?_⟩
  · exact List.nodup_append.2 ⟨hb.nodup k, List.nodup_cons.2 ⟨List.not_mem_nil, List.nodup_nil⟩,
      fun id hid id' hid' hne => hnew (List.mem_singleton.1 hid' ▸ hne ▸ hid)⟩
  · calc
      _ ↔ b.Has h ∨ h = ⟨k, b.lastHandle + 1⟩ := has_setLive_concat (b := { b with lastHandle := _ })
      _ ↔ h.LiveIn b.events ∨ h = ⟨k, b.lastHandle + 1⟩ := or_congr_left (hb.has_iff h)
      _ ↔ _ := (Handle.liveIn_made hmade hdestroyed hundestroyed).symm
  · simp only [Books.record, setLive, Event.madeIn_concat, hmade, Option.toList_some,
      List.mem_append, List.mem_singleton] at hmem
    rcases hmem with hmem | rfl
    · exact Nat.le_succ_of_le (hb.made_le h hmem)
    · exact Nat.le_refl _
  · simp only [Books.record, setLive, Event.destroyedIn_concat, hdestroyed, Option.toList_none,
      List.append_nil] at hmem
    exact Nat.le_succ_of_le (hb.destroyed_le h hmem)

/-- A handle that is destroyed is gone. -/
theorem Tallied.destroyed (hb : b.Tallied) (hh : b.Has h) :
    ((b.setLive h.kind ((b.live h.kind).filter (· ≠ h.id))).record (.destroying h)).Tallied := by
  refine ⟨nodup_setLive hb.nodup ((hb.nodup _).filter _), fun h' => ?_, ?_, fun h' hmem => ?_⟩
  · calc
      _ ↔ b.Has h' ∧ h' ≠ h := has_setLive_filter
      _ ↔ h'.LiveIn b.events ∧ h' ≠ h := and_congr_left' (hb.has_iff h')
      _ ↔ _ := (Handle.liveIn_destroyed (Event.made?_destroying h)
        (Event.destroyed?_destroying h)).symm
  · simpa [Books.record, setLive] using hb.made_le
  · simp only [Books.record, setLive, Event.destroyedIn_concat, Event.destroyed?_destroying,
      Option.toList_some, List.mem_append, List.mem_singleton] at hmem
    rcases hmem with hmem | rfl
    · exact hb.destroyed_le h' hmem
    · exact hb.id_le hh

/-! ## Memory in the books -/

/-- An event that is not about memory. -/
theorem Covers.record (hb : b.Covers held) (hfreed : e.freed? = none) :
    (b.record e).Covers held where
  count := hb.count
  distinct := hb.distinct
  below := hb.below
  freed_below := by simpa [Books.record, hfreed] using hb.freed_below
  kept := by simpa [Books.record, hfreed] using hb.kept

/-- A new allocation lies behind all others. -/
theorem Covers.allocated (hb : b.Covers held) (bytes : Nat) {span : Nat} (hspan : 0 < span) :
    ({ b with nextAddress := b.nextAddress + span
              liveBuffers := b.liveBuffers + 1 }.record (.allocate ⟨b.nextAddress⟩ bytes)).Covers
      (⟨⟨b.nextAddress⟩, bytes⟩ :: held) := by
  obtain ⟨hcount, hdistinct, hbelow, hfreed, hkept⟩ :=
    hb.record (e := .allocate ⟨b.nextAddress⟩ bytes) rfl
  refine ⟨congrArg (· + 1) hcount, ?_, fun q hq => ?_, fun p hp => ?_, fun q hq hmem => ?_⟩
  · refine List.nodup_cons.2 ⟨fun hmem => ?_, hdistinct⟩
    obtain ⟨q, hq, haddress⟩ := List.mem_map.1 hmem
    have hlt := hbelow q hq
    rw [haddress] at hlt
    exact Nat.lt_irrefl _ hlt
  · rcases List.mem_cons.1 hq with rfl | hq
    · exact Nat.lt_add_of_pos_right hspan
    · exact Nat.lt_add_right _ (hbelow q hq)
  · exact Nat.lt_add_right _ (hfreed p hp)
  · rcases List.mem_cons.1 hq with rfl | hq
    · exact Nat.lt_irrefl _ (hfreed _ hmem)
    · exact hkept q hq hmem

/-- What is taken back is held no more. -/
theorem Covers.freed (hb : b.Covers held) {q : Buffer} (hq : q ∈ held) :
    ({ b with liveBuffers := b.liveBuffers - 1 }.record (.free q.address)).Covers
      (held.erase q) := by
  have hsub : (held.erase q).Sublist held := List.erase_sublist
  have hevents : Event.freedIn (b.record (.free q.address)).events =
      Event.freedIn b.events ++ [q.address] := Event.freedIn_concat _ _
  refine ⟨?_, hb.distinct.sublist (hsub.map _), fun r hr => hb.below r (hsub.subset hr),
    fun p hp => ?_, fun r hr hmem => ?_⟩
  · rw [List.length_erase_of_mem hq, ← hb.count]
    rfl
  · rcases List.mem_append.1 (hevents ▸ hp) with hp | hp
    · exact hb.freed_below p hp
    · rw [List.mem_singleton.1 hp]
      exact hb.below q hq
  · rcases List.mem_append.1 (hevents ▸ hmem) with hmem | hmem
    · exact hb.kept r (hsub.subset hr) hmem
    · -- No two allocations that are held have one address.
      have haddress := List.mem_singleton.1 hmem
      have hrq := List.inj_on_of_nodup_map hb.distinct (hsub.subset hr) hq haddress
      have hnodup : held.Nodup := hb.distinct.of_map
      exact (hnodup.mem_erase_iff.1 hr).1 hrq

/-! ## Sound books -/

/-- The books agree with their log and with what is held. -/
structure Sound (b : Books) (held : List Buffer) : Prop where
  tallied : b.Tallied
  covers : b.Covers held

/-- Whatever is entered, the books stay sound. -/
theorem Step.sound (hb : b.Sound held) (h : Step held b held' b') : b'.Sound held' := by
  obtain ⟨ht, hc⟩ := hb
  cases h with
  | quiet => exact ⟨ht, hc⟩
  | told hmade hdestroyed hfreed => exact ⟨ht.record hmade hdestroyed, hc.record hfreed⟩
  | made k hmade hdestroyed hfreed =>
    refine ⟨ht.made k hmade hdestroyed, Covers.record ?_ hfreed⟩
    exact ⟨hc.count, hc.distinct, hc.below, hc.freed_below, hc.kept⟩
  | destroyed hh =>
    refine ⟨ht.destroyed hh, Covers.record ?_ (Event.freed?_destroying _)⟩
    exact ⟨hc.count, hc.distinct, hc.below, hc.freed_below, hc.kept⟩
  | allocated bytes hspan =>
    refine ⟨Tallied.record ?_ rfl rfl, hc.allocated bytes hspan⟩
    exact ⟨ht.nodup, ht.has_iff, ht.made_le, ht.destroyed_le⟩
  | freed hq =>
    refine ⟨Tallied.record ?_ rfl rfl, hc.freed hq⟩
    exact ⟨ht.nodup, ht.has_iff, ht.made_le, ht.destroyed_le⟩

end Books

/-! ## The books of a device -/

namespace Device

variable {held held' : List Buffer} {d d' : Device}

/-- What a device knows about memory and handles. -/
def books (d : Device) : Books where
  nextAddress := d.nextAddress
  lastHandle := d.lastHandle
  liveBuffers := d.liveBuffers
  live
    | .graph => d.liveGraphs
    | .executor => d.liveExecutors
  events := d.events

/-- A call that fails uses up its fault at most. -/
theorem guarded_eq_error {α : Type} {p : FaultPoint}
    {attempt : Except (Failure DeviceError) (α × Device)} {f : Failure DeviceError}
    (h : d.guarded p attempt = (.error f, d')) : ∃ armed, d' = { d with armed := armed } := by
  rcases guarded_cases d p attempt with ⟨_, hg⟩ | ⟨_, f, _, hg⟩ | ⟨_, a, d', ha, hg⟩
  · rw [hg] at h
    cases h
    exact ⟨_, rfl⟩
  · rw [hg] at h
    cases h
    exact ⟨_, rfl⟩
  · rw [hg] at h
    cases h

/-- A capture that does not become a graph is closed. -/
theorem endCapture_eq_error {f : Failure DeviceError} (h : d.endCapture = (.error f, d')) :
    ∃ armed, d' = { d with capture := none, armed := armed } := by
  rw [endCapture] at h
  split at h
  · next hc =>
    cases h
    exact ⟨d.armed, by rw [← hc]⟩
  · exact guarded_eq_error h

theorem issue_books (d : Device) (ops : List Op) : (d.issue ops).books = d.books := by
  rw [issue]
  split <;> rfl

/-- The device without a handle that it knew. -/
def without (d : Device) : Handle → Device
  | ⟨.graph, id⟩ =>
    { d with liveGraphs := d.liveGraphs.filter (· ≠ id) }.record (.destroyGraph id)
  | ⟨.executor, id⟩ =>
    { d with liveExecutors := d.liveExecutors.filter (· ≠ id) }.record (.destroyExecutor id)

theorem without_books (d : Device) (h : Handle) :
    (d.without h).books = (d.books.setLive h.kind ((d.books.live h.kind).filter (· ≠ h.id))).record
      (.destroying h) := by
  obtain ⟨_ | _, id⟩ := h <;>
  · refine congrArg (Books.mk _ _ _ · _) (funext fun k => ?_)
    cases k <;> rfl

theorem has_without {h h' : Handle} : (d.without h').books.Has h ↔ d.books.Has h ∧ h ≠ h' := by
  rw [without_books]
  exact Books.has_setLive_filter

theorem destroyGraph_eq_ok_iff {g : Graph} {u : Unit} :
    d.destroyGraph g = (.ok u, d') ↔
      .destroyGraph ∉ d.armed ∧ d.books.Has g.handle ∧ d' = d.without g.handle := by
  rw [destroyGraph, guarded_eq_ok_iff]
  refine and_congr_right fun _ => ?_
  by_cases hg : g.id ∈ d.liveGraphs
  · rw [if_pos hg]
    simp [Graph.handle, without, Books.Has, books, hg, eq_comm]
  · rw [if_neg hg]
    simp [Graph.handle, Books.Has, books, hg]

theorem destroyExecutor_eq_ok_iff {x : Executor} {u : Unit} :
    d.destroyExecutor x = (.ok u, d') ↔
      .destroyExecutor ∉ d.armed ∧ d.books.Has x.handle ∧ d' = d.without x.handle := by
  rw [destroyExecutor, guarded_eq_ok_iff]
  refine and_congr_right fun _ => ?_
  by_cases hx : x.id ∈ d.liveExecutors
  · rw [if_pos hx]
    simp [Executor.handle, without, Books.Has, books, hx, eq_comm]
  · rw [if_neg hx]
    simp [Executor.handle, Books.Has, books, hx]

theorem launch_eq_ok_iff {x : Executor} {u : Unit} :
    d.launch x = (.ok u, d') ↔
      .launch ∉ d.armed ∧ d.books.Has x.handle ∧ d' = (d.record (.launch x.id)).issue x.ops := by
  rw [launch, guarded_eq_ok_iff]
  refine and_congr_right fun _ => ?_
  by_cases hx : x.id ∈ d.liveExecutors
  · rw [if_pos hx]
    simp [Executor.handle, Books.Has, books, hx, eq_comm]
  · rw [if_neg hx]
    simp [Executor.handle, Books.Has, books, hx]

theorem synchronize_eq_ok_iff {u : Unit} :
    d.synchronize = (.ok u, d') ↔ .synchronize ∉ d.armed ∧ d' = d.record .synchronize := by
  rw [synchronize, guarded_eq_ok_iff]
  simp [eq_comm]

end Device

end GraphReplay
