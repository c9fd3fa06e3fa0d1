import GraphReplay.Proofs.Faults
import GraphReplay.Proofs.Stack
import Mathlib.Data.List.Pairwise
import Mathlib.Data.Nat.ModEq

/-!
# The address space of a device

A device hands out its addresses in one direction and never goes back, not even for
what is given back to it. An allocation takes up its bytes, and one address if it has
none. Behind it one alignment at least stays unused, so that nothing that is handed
out ever touches it.

* `Buffer.room`: how far the next allocation lies behind one;
* `Spaced`: allocations that lie one behind the other in this way, and what follows
  of the order and the space between any two of them;
* `Grants`: all that an act can do to the addresses (`act_grants`);
* `granted_spaced`: what a run hands out is spaced, by induction on the acts;
* `allocations_apart`: all of this together.
-/

namespace GraphReplay

theorem Range.Disjoint.symm {r r' : Range} (h : r.Disjoint r') : r'.Disjoint r :=
  fun x hx => h x hx.symm

/-! ## Allocations one behind the other -/

namespace Buffer

/-- The addresses that an allocation takes up; one of no bytes takes up one. -/
def extent (b : Buffer) : Range := ⟨b.address.toNat, max b.size 1⟩

/-- One alignment behind an allocation. -/
def gap (alignment : Nat) (b : Buffer) : Range := ⟨b.extent.stop, alignment⟩

/-- How far behind an allocation the next one begins. -/
def room (alignment : Nat) (b : Buffer) : Nat :=
  Word.roundUp (max b.size 1) alignment + alignment

variable {alignment low : Nat} {b b' : Buffer} {bs bs' : List Buffer}

theorem gap_stop_le (hpos : 0 < alignment) (b : Buffer) :
    (b.gap alignment).stop ≤ b.address.toNat + b.room alignment := by
  have hle : max b.size 1 ≤ Word.roundUp (max b.size 1) alignment := Word.le_roundUp hpos
  simp only [gap, extent, Range.stop, room]
  omega

theorem dvd_room (alignment : Nat) (b : Buffer) : alignment ∣ b.room alignment :=
  Nat.dvd_add (Word.dvd_roundUp _ _) (Nat.dvd_refl _)

/-- The allocations lie one behind the other, the first one at `low`, and there is room for all of
    them in the words. -/
def Spaced (alignment : Nat) : Nat → List Buffer → Prop
  | _, [] => True
  | low, b :: bs =>
    b.address.toNat = low ∧ low + b.room alignment < Word.limit ∧
      Spaced alignment (low + b.room alignment) bs

/-- An allocation lies behind the room of those before it. -/
theorem Spaced.address_eq (h : Spaced alignment low (bs ++ b :: bs')) :
    b.address.toNat = low + (bs.map (room alignment)).sum := by
  induction bs generalizing low with
  | nil => exact h.1
  | cons c bs ih => rw [ih h.2.2, List.map_cons, List.sum_cons, Nat.add_assoc]

theorem Spaced.of_mem (hpos : 0 < alignment) (h : Spaced alignment low bs) (hb : b ∈ bs) :
    low ≤ b.address.toNat ∧ b.address.toNat ≡ low [MOD alignment] ∧
      (b.gap alignment).stop < Word.limit := by
  induction bs generalizing low with
  | nil => cases hb
  | cons c bs ih =>
    obtain ⟨hc, hlimit, hbs⟩ := h
    rcases List.mem_cons.1 hb with rfl | hb
    · refine ⟨Nat.le_of_eq hc.symm, hc ▸ .refl _, ?_⟩
      exact Nat.lt_of_le_of_lt (hc ▸ b.gap_stop_le hpos) hlimit
    · obtain ⟨hle, hmod, hstop⟩ := ih hbs hb
      have hroom : low + c.room alignment ≡ low [MOD alignment] :=
        (Nat.modEq_zero_iff_dvd.2 (c.dvd_room alignment)).add_left low
      exact ⟨Nat.le_trans (Nat.le_add_right _ _) hle, hmod.trans hroom, hstop⟩

/-- The gap behind an allocation ends before all later ones begin. -/
theorem Spaced.pairwise (hpos : 0 < alignment) (h : Spaced alignment low bs) :
    bs.Pairwise fun b b' => (b.gap alignment).Before b'.extent := by
  induction bs generalizing low with
  | nil => exact .nil
  | cons b bs ih =>
    obtain ⟨hb, -, hbs⟩ := h
    refine List.pairwise_cons.2 ⟨fun b' hb' => ?_, ih hbs⟩
    exact Nat.le_trans (hb ▸ b.gap_stop_le hpos) (hbs.of_mem hpos hb').1

/-- Nothing that is handed out touches a gap. -/
theorem Spaced.gap_disjoint (hpos : 0 < alignment) (h : Spaced alignment low bs) :
    ∀ b ∈ bs, ∀ b' ∈ bs, (b.gap alignment).Disjoint b'.extent := by
  have hself : ∀ b : Buffer, (b.gap alignment).Disjoint b.extent := fun b =>
    (show b.extent.Before (b.gap alignment) from Nat.le_refl _).disjoint.symm
  -- Of two allocations the gap of the first is in front of the second, and that of the second is
  -- behind the second, so behind the first.
  have hpair : bs.Pairwise fun b b' => (b.gap alignment).Disjoint b'.extent ∧
      (b'.gap alignment).Disjoint b.extent := by
    refine (h.pairwise hpos).imp fun {b b'} hbefore => ⟨hbefore.disjoint, ?_⟩
    have hbehind : b.extent.Before (b'.gap alignment) := by
      simp only [Range.Before, gap, Range.stop] at hbefore ⊢
      omega
    exact hbehind.disjoint.symm
  have : Std.Symm fun b b' : Buffer => (b.gap alignment).Disjoint b'.extent ∧
      (b'.gap alignment).Disjoint b.extent := ⟨fun b b' => And.symm⟩
  intro b hb b' hb'
  exact (hpair.forall_of_forall (fun c _ => ⟨hself c, hself c⟩) hb hb').1

end Buffer

/-! ## What acts hand out -/

namespace Device

variable {d d' : Device}

theorem issue_nextAddress (d : Device) (ops : List Op) :
    (d.issue ops).nextAddress = d.nextAddress := by
  rw [issue]
  split <;> rfl

/-- No request but an allocation moves the next address. -/
theorem Effect.nextAddress_eq {c : Call} (h : Effect d c d') : d'.nextAddress = d.nextAddress := by
  cases h with
  | enqueued => exact issue_nextAddress _ _
  | launched => exact issue_nextAddress _ _
  | _ => rfl

/-- All that can become of the addresses of a device, with the memory that is handed out. -/
inductive Grants (d : Device) : List Buffer → Device → Prop
  | nothing {d' : Device} : d'.alignment = d.alignment → d'.nextAddress = d.nextAddress →
      Grants d [] d'
  | memory {d' : Device} {b : Buffer} : d'.alignment = d.alignment →
      b.address.toNat = d.nextAddress → d.nextAddress + d.span b.size < Word.limit →
      d'.nextAddress = d.nextAddress + d.span b.size → Grants d [b] d'

/-- The room for an allocation is what its device sets aside for it. -/
theorem room_eq_span (d : Device) (b : Buffer) : b.room d.alignment.bytes = d.span b.size := rfl

/-- The memory that an act hands out. -/
def grantedBy (d : Device) : Act → List Buffer
  | .attempt (.allocate bytes) => (d.allocate bytes).1.toOption.toList
  | _ => []

/-- The memory that some acts in turn hand out, in this order. -/
def granted (d : Device) : List Act → List Buffer
  | [] => []
  | x :: xs => d.grantedBy x ++ (d.act x).granted xs

theorem Effect.grants {c : Call} (h : Effect d c d') : Grants d [] d' :=
  .nothing h.alignment_eq h.nextAddress_eq

theorem act_grants (d : Device) (x : Act) : Grants d (d.grantedBy x) (d.act x) := by
  cases x with
  | arm p => exact (after_effect d (.arm p)).grants
  | enqueue op => exact (after_effect d (.enqueue op)).grants
  | free b => exact .nothing rfl rfl
  | attempt a =>
    cases a with
    | allocate bytes =>
      rw [grantedBy, act, attempt]
      rcases ha : d.allocate bytes with ⟨f | b, d'⟩
      · obtain ⟨armed, rfl⟩ := guarded_eq_error ha
        exact .nothing rfl rfl
      · obtain ⟨-, hlimit, rfl, rfl⟩ := allocate_eq_ok_iff.1 ha
        exact .memory rfl rfl hlimit rfl
    | beginCapture mode => exact (after_effect d (.beginCapture mode)).grants
    | endCapture => exact (after_effect d .endCapture).grants
    | instantiate g => exact (after_effect d (.instantiate g)).grants
    | launch e => exact (after_effect d (.launch e)).grants
    | synchronize => exact (after_effect d .synchronize).grants
    | destroyExecutor e => exact (after_effect d (.destroyExecutor e)).grants
    | destroyGraph g => exact (after_effect d (.destroyGraph g)).grants

/-- What a run hands out is spaced, and the next address lies behind it, by induction on the
    acts. -/
theorem granted_spaced (d : Device) (xs : List Act) :
    Buffer.Spaced d.alignment.bytes d.nextAddress (d.granted xs) ∧
      (d.afterActs xs).nextAddress =
        d.nextAddress + ((d.granted xs).map (Buffer.room d.alignment.bytes)).sum := by
  induction xs generalizing d with
  | nil => exact ⟨trivial, rfl⟩
  | cons x xs ih =>
    obtain ⟨hspaced, hnext⟩ := ih (d.act x)
    rw [granted, afterActs, hnext]
    have hx := d.act_grants x
    generalize d.grantedBy x = bs, d.act x = d' at *
    cases hx with
    | nothing halign hsame =>
      rw [halign, hsame] at hspaced ⊢
      exact ⟨hspaced, rfl⟩
    | memory halign hb hlimit hmoved =>
      rw [← room_eq_span] at hlimit hmoved
      rw [halign, hmoved] at hspaced ⊢
      exact ⟨⟨hb, hlimit, hspaced⟩, by
        rw [List.singleton_append, List.map_cons, List.sum_cons, Nat.add_assoc]⟩

/-- A new device aligns as it was told to, and begins where it was told to. -/
theorem create_eq_ok {c : DeviceConfig} (h : Device.create c = .ok d) :
    d.alignment.bytes = c.alignment ∧ d.nextAddress = c.baseAddress := by
  obtain ⟨a, ha, h⟩ := Failure.bind_eq_ok_iff.1 h
  cases h
  rw [Alignment.ofBytes?] at ha
  split at ha
  · cases ha
    exact ⟨rfl, rfl⟩
  · cases ha

/-- The memory that a device hands out, whatever it is asked for and whatever fails. The addresses
    grow, and are off the alignment as far as the first one is. Any two allocations are disjoint,
    with one alignment at least between them that no allocation touches, and there is room for one
    alignment in the words behind each. An allocation begins where the room of those before it
    ends, however many calls failed in between, since a call that fails takes up nothing. -/
theorem allocations_apart {c : DeviceConfig} (h : Device.create c = .ok d) (xs : List Act) :
    ((d.granted xs).map (·.address.toNat)).Pairwise (· < ·) ∧
    (∀ b ∈ d.granted xs, b.address.toNat ≡ c.baseAddress [MOD c.alignment]) ∧
    (d.granted xs).Pairwise (fun b b' => b.extent.Disjoint b'.extent ∧
      (b.gap c.alignment).Before b'.extent) ∧
    (∀ b ∈ d.granted xs, ∀ b' ∈ d.granted xs, (b.gap c.alignment).Disjoint b'.extent) ∧
    (∀ b ∈ d.granted xs, (b.gap c.alignment).stop < Word.limit) ∧
    (∀ bs b bs', d.granted xs = bs ++ b :: bs' →
      b.address.toNat = c.baseAddress + (bs.map (Buffer.room c.alignment)).sum) ∧
    ∀ bytes f d', (d.afterActs xs).allocate bytes = (.error f, d') →
      d'.nextAddress = (d.afterActs xs).nextAddress ∧
        d'.nextAddress = c.baseAddress + ((d.granted xs).map (Buffer.room c.alignment)).sum := by
  obtain ⟨halign, hbase⟩ := create_eq_ok h
  obtain ⟨hspaced, hnext⟩ := d.granted_spaced xs
  have hpos := d.alignment.bytes_pos
  rw [halign] at hpos hspaced hnext
  rw [hbase] at hspaced hnext
  have hpair := hspaced.pairwise hpos
  refine ⟨?grows, fun b hb => (hspaced.of_mem hpos hb).2.1, ?apart, hspaced.gap_disjoint hpos,
    fun b hb => (hspaced.of_mem hpos hb).2.2, ?behind, fun bytes f d' hfail => ?fails⟩
  case grows =>
    refine List.pairwise_map.2 (hpair.imp fun {b b'} hbefore => ?_)
    simp only [Range.Before, Buffer.gap, Buffer.extent, Range.stop] at hbefore
    omega
  case apart =>
    refine hpair.imp fun {b b'} hbefore => ⟨?_, hbefore⟩
    exact Range.Before.disjoint (Nat.le_trans (Nat.le_add_right _ _) hbefore)
  case behind =>
    intro bs b bs' heq
    rw [heq] at hspaced
    exact hspaced.address_eq
  case fails =>
    obtain ⟨armed, rfl⟩ := guarded_eq_error hfail
    exact ⟨rfl, hnext⟩

/-- Allocations with a fault, an overflow and a release between them, on a device that begins off
    its alignment. The second one has no bytes. -/
theorem sample_allocations_apart :
    let xs : List Act := [.attempt (.allocate 300), .arm .allocate, .attempt (.allocate 7),
      .attempt (.allocate (Word.limit - 1)), .free ⟨⟨1000⟩, 300⟩, .attempt (.allocate 0),
      .attempt (.allocate 1)]
    sample.granted xs = [⟨⟨1000⟩, 300⟩, ⟨⟨1768⟩, 0⟩, ⟨⟨2280⟩, 1⟩] ∧
      (⟨⟨1768⟩, 0⟩ : Buffer).address.toNat ≡ 1000 [MOD 256] ∧
      Range.Disjoint ⟨1300, 256⟩ ⟨1768, 1⟩ ∧ 2281 + 256 < Word.limit := by
  intro xs
  have hcreate : Device.create { alignment := 256, baseAddress := 1000 } = .ok sample := rfl
  have hgranted : sample.granted xs = [⟨⟨1000⟩, 300⟩, ⟨⟨1768⟩, 0⟩, ⟨⟨2280⟩, 1⟩] := by decide +kernel
  obtain ⟨-, hmod, -, hgap, hwords, -⟩ := allocations_apart hcreate xs
  rw [hgranted] at hmod hgap hwords
  exact ⟨hgranted, hmod _ (by simp), hgap ⟨⟨1000⟩, 300⟩ (by simp) ⟨⟨1768⟩, 0⟩ (by simp),
    hwords ⟨⟨2280⟩, 1⟩ (by simp)⟩

end Device

end GraphReplay
