import GraphReplay.Proofs.Device
import GraphReplay.Workspace.Build
import Mathlib.Algebra.Order.Ring.Nat

/-!
# The layout of a stack

What is pushed on a stack lies where a greedy layout puts it: each range starts
at the lowest aligned address that is free (`starts`), and the last one ends at
`top`. Ranges of a greedy layout are in order and do not overlap, and the
padding is less than one alignment for each of them (`top_le`).

The checked arithmetic of a stack never gets in the way of a range that fits,
because the device left an alignment unused behind the allocation
(`Guarded.room`):

* `push_eq_ok_iff`: a push succeeds exactly if its range ends in the allocation;
* `pushBindings_layout`: bindings that are pushed lie as in the greedy layout;
* `pushBindings_error`: if the greedy layout ends in the allocation, it is not
  the stack that fails.
-/

namespace GraphReplay

/-! ## Ranges -/

/-- Addresses in a row. -/
structure Range where
  start : Nat
  size : Nat

namespace Range

/-- Where the range has ended. -/
def stop (r : Range) : Nat := r.start + r.size

/-- The range ends before the other begins. -/
def Before (r r' : Range) : Prop := r.stop ≤ r'.start

/-- The range lies in the other. -/
def Within (r r' : Range) : Prop := r'.start ≤ r.start ∧ r.stop ≤ r'.stop

/-- No address is in both ranges. -/
def Disjoint (r r' : Range) : Prop :=
  ∀ x, ¬((r.start ≤ x ∧ x < r.stop) ∧ r'.start ≤ x ∧ x < r'.stop)

theorem Before.disjoint {r r' : Range} (h : r.Before r') : r.Disjoint r' := by
  rintro x ⟨⟨_, hx⟩, hx', _⟩
  exact absurd (Nat.lt_of_lt_of_le hx h) (Nat.not_lt.2 hx')

end Range

/-- The addresses of an allocation. -/
def Buffer.range (b : Buffer) : Range := ⟨b.address.toNat, b.size⟩

/-- The ranges of the given sizes that start at the given addresses. -/
def rangesAt (ps : List Address) (sizes : List Nat) : List Range :=
  ps.zipWith (fun p n => ⟨p.toNat, n⟩) sizes

/-! ## Greedy layouts -/

namespace Layout

/-- Where ranges of the given sizes start if they are laid out one after the other from `low` on,
    each at the lowest multiple of `alignment` that is free. -/
def starts (alignment : Nat) : Nat → List Nat → List Nat
  | _, [] => []
  | low, n :: sizes =>
    Word.roundUp low alignment :: starts alignment (Word.roundUp low alignment + n) sizes

/-- Where the last of them has ended. -/
def top (alignment : Nat) : Nat → List Nat → Nat
  | low, [] => low
  | low, n :: sizes => top alignment (Word.roundUp low alignment + n) sizes

variable {alignment low : Nat} {sizes : List Nat}

theorem length_starts : (starts alignment low sizes).length = sizes.length := by
  induction sizes generalizing low with
  | nil => rfl
  | cons n sizes ih => rw [starts, List.length_cons, ih, List.length_cons]

theorem dvd_of_mem_starts {p : Nat} (h : p ∈ starts alignment low sizes) : alignment ∣ p := by
  induction sizes generalizing low with
  | nil => cases h
  | cons n sizes ih =>
    rcases List.mem_cons.1 h with rfl | h
    · exact Word.dvd_roundUp _ _
    · exact ih h

theorem le_top (hpos : 0 < alignment) : low ≤ top alignment low sizes := by
  induction sizes generalizing low with
  | nil => exact Nat.le_refl _
  | cons n sizes ih =>
    have hlow : low ≤ Word.roundUp low alignment := Word.le_roundUp hpos
    have hrest : Word.roundUp low alignment + n ≤
        top alignment (Word.roundUp low alignment + n) sizes := ih
    exact Nat.le_trans (by omega) hrest

/-- The padding is less than one alignment for each range. -/
theorem top_le (hpos : 0 < alignment) :
    top alignment low sizes ≤ low + sizes.sum + sizes.length * alignment := by
  induction sizes generalizing low with
  | nil => exact Nat.le_add_right _ _
  | cons n sizes ih =>
    have hpad : Word.roundUp low alignment < low + alignment := Word.roundUp_lt hpos
    have hrest : top alignment (Word.roundUp low alignment + n) sizes ≤
        Word.roundUp low alignment + n + sizes.sum + sizes.length * alignment := ih
    rw [top, List.sum_cons, List.length_cons, Nat.succ_mul]
    omega

/-- All ranges of a layout lie between its ends. -/
theorem mem_zipWith_starts (hpos : 0 < alignment) {r : Range}
    (h : r ∈ (starts alignment low sizes).zipWith Range.mk sizes) :
    low ≤ r.start ∧ r.stop ≤ top alignment low sizes := by
  induction sizes generalizing low with
  | nil => cases h
  | cons n sizes ih =>
    have hlow : low ≤ Word.roundUp low alignment := Word.le_roundUp hpos
    rcases List.mem_cons.1 h with rfl | h
    · exact ⟨hlow, le_top hpos⟩
    · obtain ⟨hstart, hstop⟩ := ih h
      exact ⟨Nat.le_trans (by omega) hstart, hstop⟩

/-- The ranges of a layout are in order, and so do not overlap. -/
theorem pairwise_zipWith_starts (hpos : 0 < alignment) :
    ((starts alignment low sizes).zipWith Range.mk sizes).Pairwise Range.Before := by
  induction sizes generalizing low with
  | nil => exact List.Pairwise.nil
  | cons n sizes ih => exact List.pairwise_cons.2 ⟨fun r hr => (mem_zipWith_starts hpos hr).1, ih⟩

end Layout

/-! ## Pushing -/

namespace BindingStack

open Failure

variable {s s' : BindingStack}

/-- The lowest address that was not handed out. -/
def low (s : BindingStack) : Nat := s.base.toNat + s.used

/-- Where the allocation has ended. -/
def high (s : BindingStack) : Nat := s.base.toNat + s.capacity

/-- Not more is used than there is, and one alignment fits in the words behind the allocation. -/
structure Guarded (s : BindingStack) : Prop where
  used_le : s.used ≤ s.capacity
  room : s.high + s.alignment.bytes < Word.limit

theorem Guarded.low_le (hs : s.Guarded) : s.low ≤ s.high := Nat.add_le_add_left hs.used_le _

theorem Guarded.reset (hs : s.Guarded) : s.reset.Guarded := ⟨Nat.zero_le _, hs.room⟩

/-- Finding the next address does not overflow. -/
theorem Guarded.nextAddress_eq (hs : s.Guarded) :
    s.nextAddress = .ok (Word.roundUp s.low s.alignment.bytes) := by
  have hlow := hs.low_le
  have hroom := hs.room
  simp only [nextAddress, bind_eq_ok_iff, Word.add_eq_ok_iff,
    Word.alignUp_eq_ok_iff s.alignment.bytes_pos]
  exact ⟨s.low, ⟨by rw [low] at *; omega, rfl⟩, .inr (by omega), rfl⟩

/-- What is free next lies behind the begin of the allocation. -/
theorem base_le_roundUp (s : BindingStack) :
    s.base.toNat ≤ Word.roundUp s.low s.alignment.bytes :=
  Nat.le_trans (Nat.le_add_right _ _) (Word.le_roundUp s.alignment.bytes_pos)

/-- A push succeeds exactly if the range, at the lowest aligned address that is free, ends in the
    allocation. -/
theorem push_eq_ok_iff (hs : s.Guarded) {size : Nat} {p : Address} :
    s.push size = .ok (p, s') ↔
      Word.roundUp s.low s.alignment.bytes + size ≤ s.high ∧
        p = ⟨Word.roundUp s.low s.alignment.bytes⟩ ∧
        s' = { s with used := Word.roundUp s.low s.alignment.bytes - s.base.toNat + size } := by
  have hbase := s.base_le_roundUp
  have hroom := hs.room
  simp only [push, hs.nextAddress_eq, bind_eq_ok_iff, lift_eq_ok_iff, Word.add_eq_ok_iff]
  rw [high] at *
  constructor
  · rintro ⟨_, hstart, used, ⟨hlt, rfl⟩, h⟩
    cases hstart
    split at h
    · obtain ⟨_, h, _⟩ := bind_eq_ok_iff.1 h
      cases h
    · next hcap =>
      cases h
      exact ⟨by omega, rfl, rfl⟩
  · rintro ⟨hfit, rfl, rfl⟩
    refine ⟨_, rfl, _, ⟨by omega, rfl⟩, ?_⟩
    rw [if_neg (by omega)]
    rfl

/-- Stacks that are the same after a reset end at one address and have one alignment. -/
theorem of_reset_eq (h : s'.reset = s.reset) : s'.high = s.high ∧ s'.alignment = s.alignment := by
  have hhigh : s'.reset.high = s.reset.high := by rw [h]
  have halign : s'.reset.alignment = s.reset.alignment := by rw [h]
  exact ⟨hhigh, halign⟩

theorem push_frame (hs : s.Guarded) {size : Nat} {p : Address} (h : s.push size = .ok (p, s')) :
    s'.reset = s.reset ∧ s'.Guarded ∧ s'.low = Word.roundUp s.low s.alignment.bytes + size := by
  have hbase := s.base_le_roundUp
  obtain ⟨hfit, rfl, rfl⟩ := (push_eq_ok_iff hs).1 h
  rw [high] at hfit
  exact ⟨rfl, ⟨by simp only [capacity] at *; omega, hs.room⟩, by simp only [low, base] at *; omega⟩

/-! ## Pushing bindings -/

/-- The sizes of the first `count` of `bindings`, for `batchSize` items each. -/
def sizes (batchSize count : Nat) (bindings : List Binding) : List Nat :=
  (bindings.take count).map (·.bytesPerItem * batchSize)

variable {batchSize count pushed : Nat} {bindings : List Binding}

/-- Whatever comes of it, pushing bindings only uses more of the same allocation. -/
theorem pushBindings_frame (hs : s.Guarded) :
    (s.pushBindings batchSize count bindings pushed).2.reset = s.reset ∧
      (s.pushBindings batchSize count bindings pushed).2.Guarded := by
  induction count generalizing s bindings pushed with
  | zero => exact ⟨rfl, hs⟩
  | succ count ih =>
    match bindings with
    | [] => exact ⟨rfl, hs⟩
    | b :: bindings =>
      rw [pushBindings]
      cases b.bytesFor batchSize with
      | error d => exact ⟨rfl, hs⟩
      | ok size =>
        cases hp : s.push size with
        | error f =>
          simp only [hp]
          exact ⟨trivial, hs⟩
        | ok ps =>
          simp only [hp]
          obtain ⟨hreset, hs', _⟩ := push_frame hs hp
          obtain ⟨hreset', hs''⟩ := @ih _ (pushed + 1) bindings hs'
          exact ⟨hreset'.trans hreset, hs''⟩

/-- Bindings that are pushed lie as in the greedy layout, which ends in the allocation. -/
theorem pushBindings_layout (hs : s.Guarded) {ps : List Address}
    (h : s.pushBindings batchSize count bindings pushed = (.ok ps, s')) :
    count ≤ bindings.length ∧
      (∀ b ∈ bindings.take count, b.bytesFor batchSize = .ok (b.bytesPerItem * batchSize)) ∧
      ps.map Address.toNat = Layout.starts s.alignment.bytes s.low (sizes batchSize count bindings) ∧
      Layout.top s.alignment.bytes s.low (sizes batchSize count bindings) ≤ s.high := by
  -- Along the recursion of `pushBindings`, with the lowest free address as where the layout begins.
  induction count generalizing s bindings pushed ps with
  | zero =>
    cases h
    exact ⟨Nat.zero_le _, by simp, rfl, hs.low_le⟩
  | succ count ih =>
    match bindings with
    | [] => cases h
    | b :: bindings =>
      rw [pushBindings] at h
      cases hb : b.bytesFor batchSize with
      | error d => simp [hb] at h
      | ok size =>
        cases hp : s.push size with
        | error f => simp [hb, hp] at h
        | ok q =>
          obtain ⟨p, s₁⟩ := q
          simp only [hb, hp, Prod.mk.injEq, map_eq_ok_iff] at h
          obtain ⟨⟨ps', hps, rfl⟩, hs'⟩ := h
          obtain ⟨hreset, hs₁, hlow⟩ := push_frame hs hp
          obtain ⟨hcount, hbytes, hstarts, htop⟩ := ih hs₁ (Prod.ext hps hs')
          obtain ⟨hhigh, halign⟩ := of_reset_eq hreset
          have hsize : size = b.bytesPerItem * batchSize := (Word.mul_eq_ok_iff.1 hb).2
          rw [halign, hlow, hsize] at hstarts htop
          rw [hhigh] at htop
          refine ⟨Nat.succ_le_succ hcount, fun c hc => ?_, ?_, htop⟩
          · rcases List.mem_cons.1 hc with rfl | hc
            · rw [hb, hsize]
            · exact hbytes c hc
          · rw [List.map_cons, hstarts, ((push_eq_ok_iff hs).1 hp).2.1]
            rfl

/-- If the greedy layout ends in the allocation, pushing fails only for a binding that is not there
    or whose size is no word. -/
theorem pushBindings_error (hs : s.Guarded)
    (hfit : Layout.top s.alignment.bytes s.low (sizes batchSize count bindings) ≤ s.high)
    {f : Failure StackError} (h : (s.pushBindings batchSize count bindings pushed).1 = .error f) :
    (∃ d, f = .defect d) ∧ (bindings.length < count ∨
      ∃ b ∈ bindings.take count, Word.limit ≤ b.bytesPerItem * batchSize) := by
  induction count generalizing s bindings pushed with
  | zero => cases h
  | succ count ih =>
    match bindings with
    | [] =>
      cases h
      exact ⟨⟨_, rfl⟩, .inl (Nat.succ_pos _)⟩
    | b :: bindings =>
      rw [pushBindings] at h
      by_cases hb : b.bytesPerItem * batchSize < Word.limit
      · -- This binding fits, because the layout goes on behind it.
        have hend : Word.roundUp s.low s.alignment.bytes + b.bytesPerItem * batchSize ≤ s.high :=
          Nat.le_trans (Layout.le_top s.alignment.bytes_pos) hfit
        have hp := (push_eq_ok_iff hs).2 ⟨hend, rfl, rfl⟩
        obtain ⟨hreset, hs', hlow⟩ := push_frame hs hp
        obtain ⟨hhigh, halign⟩ := of_reset_eq hreset
        simp only [Binding.bytesFor, Word.mul_of_lt hb, hp, map_eq_error_iff] at h
        obtain ⟨hd, hwhy⟩ := ih hs' (by rw [halign, hlow, hhigh]; exact hfit) h
        refine ⟨hd, hwhy.imp (Nat.succ_lt_succ ·) fun ⟨c, hc, hlt⟩ => ?_⟩
        exact ⟨c, List.mem_cons_of_mem _ hc, hlt⟩
      · have hbytes : b.bytesFor batchSize = .error .mulOverflow := if_neg hb
        simp only [hbytes] at h
        cases h
        exact ⟨⟨_, rfl⟩, .inr ⟨b, List.mem_cons_self, Nat.not_lt.1 hb⟩⟩

/-! ## Stacks of a device -/

/-- A new stack is guarded, and lies in front of all later allocations. -/
theorem create_eq_ok {d d' : Device} {capacity : Nat} (h : create d capacity = (.ok s, d')) :
    s = ⟨⟨⟨d.nextAddress⟩, capacity⟩, d.alignment, 0⟩ ∧ s.Guarded ∧
      s.high + d.alignment.bytes ≤ d'.nextAddress ∧ d'.alignment = d.alignment := by
  rw [create] at h
  cases ha : d.allocate capacity with
  | mk answer d₁ =>
    simp only [ha, Prod.mk.injEq, map_eq_ok_iff] at h
    obtain ⟨⟨b, rfl, rfl⟩, rfl⟩ := h
    obtain ⟨_, hlt, rfl, rfl⟩ := Device.allocate_eq_ok_iff.1 ha
    have hle : max capacity 1 ≤ Word.roundUp (max capacity 1) d.alignment.bytes :=
      Word.le_roundUp d.alignment.bytes_pos
    rw [Device.span] at hlt
    refine ⟨rfl, ⟨Nat.zero_le _, ?_⟩, ?_, rfl⟩
    · simp only [high, base, BindingStack.capacity]
      omega
    · simp only [high, base, BindingStack.capacity, Device.record, Device.span]
      omega

theorem create_alignment (d : Device) (capacity : Nat) :
    (create d capacity).2.alignment = d.alignment :=
  d.allocate_alignment capacity

/-- A request to a stack. -/
inductive Call
  | push (size : Nat)
  | reset

/-- The stack after a request; a push that fails leaves it as it is. -/
def after (s : BindingStack) : Call → BindingStack
  | .push size =>
    match s.push size with
    | .ok (_, s') => s'
    | .error _ => s
  | .reset => s.reset

/-- The stack after some requests in turn. -/
def afterAll (s : BindingStack) (calls : List Call) : BindingStack := calls.foldl after s

theorem after_frame (hs : s.Guarded) (c : Call) : (s.after c).reset = s.reset ∧ (s.after c).Guarded := by
  cases c with
  | push size =>
    rw [after]
    cases hp : s.push size with
    | error f => exact ⟨rfl, hs⟩
    | ok q =>
      obtain ⟨hreset, hs', _⟩ := push_frame hs hp
      exact ⟨hreset, hs'⟩
  | reset => exact ⟨rfl, hs.reset⟩

/-- A stack keeps its allocation and its alignment, and stays guarded. -/
theorem afterAll_frame (hs : s.Guarded) (calls : List Call) :
    (s.afterAll calls).reset = s.reset ∧ (s.afterAll calls).Guarded := by
  induction calls generalizing s with
  | nil => exact ⟨rfl, hs⟩
  | cons c calls ih =>
    obtain ⟨hreset, hs'⟩ := after_frame hs c
    obtain ⟨hreset', hs''⟩ := ih hs'
    exact ⟨hreset'.trans hreset, hs''⟩

end BindingStack

/-! ## Activation spaces -/

namespace ActivationSpace

open Failure

theorem create_alignment (d : Device) (bytes : Nat) :
    (create d bytes).2.alignment = d.alignment :=
  d.allocate_alignment bytes

/-- When there is memory for a space, and where it lies. -/
theorem create_eq_ok_iff {d d' : Device} {bytes : Nat} {a : ActivationSpace} :
    create d bytes = (.ok a, d') ↔
      d.allocate bytes = (.ok a.backing, d') := by
  rw [create, Prod.mk.injEq, map_eq_ok_iff, Prod.ext_iff]
  refine and_congr_left fun _ => ⟨?_, fun h => ⟨_, h, rfl⟩⟩
  rintro ⟨_, h, rfl⟩
  exact h

end ActivationSpace

end GraphReplay
