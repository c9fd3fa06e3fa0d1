import GraphReplay.Proofs.Reachable
import GraphReplay.Proofs.Stack
import Mathlib.Order.Bounds.Defs

/-!
# The use of a stack

Whatever is asked of a stack, pushes that succeed, pushes that fail and resets in
any order, it holds the ranges that it handed out since the last reset, one behind
the other, and what it calls used ends with the last of them. A push that fails adds
nothing. A reset forgets all ranges, so a stack that is asked again for the same
sizes answers the same.

A push is answered in one of three ways. It succeeds if its range ends in the
allocation. Otherwise the stack is exhausted, unless the range ends behind the last
word: the end is computed before it is compared, so that is a defect.

* `handedOut`: the ranges handed out since the last reset;
* `Holds`: a stack holds some ranges; each request keeps this up (`Holds.after`), so
  any number of them does (`Holds.afterAll`);
* `handed_out_in_order`: what this means for all that is asked of a new stack;
* `push_eq`: the three answers to a push;
* `push_answers`: when each of them is given, and `push_can_overflow`: that the third
  one is.
-/

namespace GraphReplay.BindingStack

variable {d d' : Device} {s s' : BindingStack} {rs : List Range} {capacity : Nat}

/-! ## Ranges handed out -/

/-- The ranges handed out since the last reset, if they were `rs` before the request. -/
def record (s : BindingStack) (rs : List Range) : Call → List Range
  | .push size =>
    match s.push size with
    | .ok (p, _) => rs ++ [⟨p.toNat, size⟩]
    | .error _ => rs
  | .reset => []

/-- The ranges handed out since the last reset, if they were `rs` before some requests in turn. -/
def recordAll (s : BindingStack) (rs : List Range) : List Call → List Range
  | [] => rs
  | c :: calls => (s.after c).recordAll (s.record rs c) calls

/-- The ranges that a new stack has handed out since the last reset, the first one first. -/
def handedOut (s : BindingStack) (calls : List Call) : List Range := s.recordAll [] calls

/-- Where the last of some ranges has ended, or `low` if there are none. -/
def lastStop (low : Nat) (rs : List Range) : Nat := (rs.getLast?.map Range.stop).getD low

/-- The answers to some pushes in turn. -/
def answers (s : BindingStack) : List Nat → List (Except (Failure StackError) Address)
  | [] => []
  | size :: sizes => (s.push size).map Prod.fst :: (s.after (.push size)).answers sizes

theorem lastStop_concat (low : Nat) (rs : List Range) (r : Range) :
    lastStop low (rs ++ [r]) = r.stop := by
  rw [lastStop, List.getLast?_concat, Option.map_some, Option.getD_some]

theorem afterAll_append (s : BindingStack) (calls calls' : List Call) :
    s.afterAll (calls ++ calls') = (s.afterAll calls).afterAll calls' :=
  List.foldl_append

theorem recordAll_append (s : BindingStack) (rs : List Range) (calls calls' : List Call) :
    s.recordAll rs (calls ++ calls') =
      (s.afterAll calls).recordAll (s.recordAll rs calls) calls' := by
  induction calls generalizing s rs with
  | nil => rfl
  | cons c calls ih => exact ih (s.after c) (s.record rs c)

/-! ## What a stack holds -/

/-- The stack holds these ranges: they are aligned and in order, and lie between the begin of the
    allocation and the end of what is used, which is where the last of them has ended. -/
structure Holds (s : BindingStack) (rs : List Range) : Prop where
  low_eq : s.low = lastStop s.base.toNat rs
  aligned : ∀ r ∈ rs, s.alignment.bytes ∣ r.start
  within : ∀ r ∈ rs, s.base.toNat ≤ r.start ∧ r.stop ≤ s.low
  ordered : rs.Pairwise Range.Before

theorem holds_nil (hused : s.used = 0) : s.Holds [] where
  low_eq := by rw [low, hused, Nat.add_zero]; rfl
  aligned := nofun
  within := nofun
  ordered := .nil

/-- One more range, behind all others. -/
theorem Holds.push (hs : s.Guarded) (h : s.Holds rs) {size : Nat} {p : Address}
    (hp : s.push size = .ok (p, s')) : s'.Holds (rs ++ [⟨p.toNat, size⟩]) := by
  have hstart : s.low ≤ Word.roundUp s.low s.alignment.bytes :=
    Word.le_roundUp s.alignment.bytes_pos
  obtain ⟨-, -, hlow⟩ := push_frame hs hp
  obtain ⟨-, rfl, rfl⟩ := (push_eq_ok_iff hs).1 hp
  refine ⟨?_, ?_, ?_, ?_⟩
  · rw [lastStop_concat, hlow]
    rfl
  · rw [List.forall_mem_append, List.forall_mem_singleton]
    exact ⟨h.aligned, Word.dvd_roundUp _ _⟩
  · rw [List.forall_mem_append, List.forall_mem_singleton, hlow]
    refine ⟨fun r hr => ?_, s.base_le_roundUp, Nat.le_refl _⟩
    obtain ⟨hfirst, hstop⟩ := h.within r hr
    exact ⟨hfirst, Nat.le_trans hstop (Nat.le_trans hstart (Nat.le_add_right _ _))⟩
  · rw [List.pairwise_append]
    refine ⟨h.ordered, List.pairwise_singleton _ _, fun r hr q hq => ?_⟩
    rw [List.mem_singleton.1 hq]
    exact Nat.le_trans (h.within r hr).2 hstart

/-- Each request keeps up what the stack holds. -/
theorem Holds.after (hs : s.Guarded) (h : s.Holds rs) (c : Call) :
    (s.after c).Holds (s.record rs c) := by
  cases c with
  | push size =>
    rw [BindingStack.after, record]
    cases hp : s.push size with
    | error f => exact h
    | ok q => exact h.push hs hp
  | reset => exact holds_nil rfl

/-- So does any number of them, by induction on the requests. -/
theorem Holds.afterAll (hs : s.Guarded) (h : s.Holds rs) (calls : List Call) :
    (s.afterAll calls).Holds (s.recordAll rs calls) := by
  induction calls generalizing s rs with
  | nil => exact h
  | cons c calls ih => exact ih (after_frame hs c).2 (h.after hs c)

/-- A push that fails leaves no trace, whatever is asked before it and after it. -/
theorem afterAll_of_push_error {calls : List Call} {size : Nat} {f : Failure StackError}
    (h : (s.afterAll calls).push size = .error f) (calls' : List Call) :
    s.afterAll (calls ++ .push size :: calls') = s.afterAll (calls ++ calls') ∧
      s.handedOut (calls ++ .push size :: calls') = s.handedOut (calls ++ calls') := by
  have hafter : (s.afterAll calls).after (.push size) = s.afterAll calls := by
    rw [BindingStack.after, h]
  have hrecord : (s.afterAll calls).record (s.handedOut calls) (.push size) =
      s.handedOut calls := by
    rw [record, h]
  constructor
  · rw [afterAll_append, afterAll_append]
    exact congrArg (·.afterAll calls') hafter
  · rw [handedOut, handedOut, recordAll_append, recordAll_append, recordAll, hafter]
    exact congrArg ((s.afterAll calls).recordAll · calls') hrecord

/-- A new stack keeps its place, its size and its alignment, whatever is asked of it. -/
theorem afterAll_of_create (h : create d capacity = (.ok s, d')) (calls : List Call) :
    (s.afterAll calls).Guarded ∧ (s.afterAll calls).reset = s ∧
      (s.afterAll calls).base = s.base ∧ (s.afterAll calls).capacity = capacity ∧
      (s.afterAll calls).alignment = d.alignment := by
  obtain ⟨rfl, hguarded, -⟩ := create_eq_ok h
  obtain ⟨hreset, hs⟩ := afterAll_frame hguarded calls
  exact ⟨hs, hreset, congrArg (·.backing.address) hreset, congrArg (·.backing.size) hreset,
    congrArg (·.alignment) hreset⟩

/-- All that is asked of a new stack. What is used and what is not make up the capacity. A push that
    succeeds takes the lowest aligned address behind the range that was handed out before it, and
    uses the stack up to its own end. A push that fails leaves no trace. The ranges handed out since
    the last reset are aligned, inside the allocation, in order and disjoint, and after a reset
    the stack answers as a new one would. -/
theorem handed_out_in_order (h : create d capacity = (.ok s, d')) (calls : List Call) :
    (s.afterAll calls).used ≤ capacity ∧
    (s.afterAll calls).used + (s.afterAll calls).available = capacity ∧
    (∀ size p t, (s.afterAll calls).push size = .ok (p, t) →
      IsLeast {x | d.alignment.bytes ∣ x ∧ lastStop s.base.toNat (s.handedOut calls) ≤ x} p.toNat ∧
        s.base.toNat + t.used = p.toNat + size) ∧
    (∀ size f, (s.afterAll calls).push size = .error f → ∀ calls',
      s.afterAll (calls ++ .push size :: calls') = s.afterAll (calls ++ calls') ∧
        s.handedOut (calls ++ .push size :: calls') = s.handedOut (calls ++ calls')) ∧
    (∀ r ∈ s.handedOut calls, d.alignment.bytes ∣ r.start ∧ r.Within ⟨s.base.toNat, capacity⟩) ∧
    (s.handedOut calls).Pairwise Range.Before ∧
    (s.handedOut calls).Pairwise Range.Disjoint ∧
    ∀ sizes, (s.afterAll calls).reset.answers sizes = s.answers sizes := by
  obtain ⟨hs, hreset, hbase, hcapacity, halign⟩ := afterAll_of_create h calls
  obtain ⟨hnew, hguarded, -⟩ := create_eq_ok h
  have hholds : (s.afterAll calls).Holds (s.handedOut calls) :=
    (holds_nil (by rw [hnew])).afterAll hguarded calls
  refine ⟨?used, ?rest, ?push, fun size f => afterAll_of_push_error, ?ranges, hholds.ordered,
    hholds.ordered.imp Range.Before.disjoint, fun sizes => by rw [hreset]⟩
  case used => exact hcapacity ▸ hs.used_le
  case rest =>
    rw [← hcapacity]
    exact Nat.add_sub_cancel' hs.used_le
  case push =>
    intro size p t hp
    rw [← halign, ← hbase, ← hholds.low_eq]
    obtain ⟨-, -, hlow⟩ := push_frame hs hp
    obtain ⟨-, rfl, rfl⟩ := (push_eq_ok_iff hs).1 hp
    have hpos := (s.afterAll calls).alignment.bytes_pos
    exact ⟨⟨⟨Word.dvd_roundUp _ _, Word.le_roundUp hpos⟩,
      fun x hx => Word.roundUp_le hpos hx.1 hx.2⟩, hlow⟩
  case ranges =>
    intro r hr
    obtain ⟨hfirst, hstop⟩ := hholds.within r hr
    rw [← halign, ← hbase, ← hcapacity]
    exact ⟨hholds.aligned r hr, hfirst, Nat.le_trans hstop hs.low_le⟩

/-- A stack whose allocation begins off the alignment. -/
def sample : BindingStack := ⟨⟨⟨1000⟩, 1000⟩, Device.sample.alignment, 0⟩

theorem sample_create : create .sample 1000 = (.ok sample, (create .sample 1000).2) := rfl

/-- A push that does not fit leaves no trace, one of no bytes takes up the padding before it, and
    what is pushed after a reset lies where it would have lain at first. -/
theorem sample_handed_out_in_order :
    let calls : List Call := [.push 5, .push 2000, .push 0, .push 10]
    sample.handedOut calls = [⟨1024, 5⟩, ⟨1280, 0⟩, ⟨1280, 10⟩] ∧
      [⟨1024, 5⟩, ⟨1280, 0⟩, ⟨1280, 10⟩].Pairwise Range.Disjoint ∧
      (sample.afterAll calls).used = 290 ∧ (sample.afterAll calls).available = 710 ∧
      (sample.afterAll calls).reset.answers [5, 0] = sample.answers [5, 0] := by
  intro calls
  have hranges : sample.handedOut calls = [⟨1024, 5⟩, ⟨1280, 0⟩, ⟨1280, 10⟩] := by cbv
  have hused : (sample.afterAll calls).used = 290 := by cbv
  obtain ⟨-, hrest, -, -, -, -, hdisjoint, hreplay⟩ := handed_out_in_order sample_create calls
  rw [hranges] at hdisjoint
  exact ⟨hranges, hdisjoint, hused, by omega, hreplay [5, 0]⟩

/-! ## The three answers to a push -/

/-- Where the next range begins, counted from the begin of the allocation. -/
def nextOffset (s : BindingStack) : Nat := Word.roundUp s.low s.alignment.bytes - s.base.toNat

/-- The answer to a push. Only the end of its range can leave the words. -/
theorem push_eq (hs : s.Guarded) (size : Nat) :
    s.push size =
      if s.nextOffset + size ≤ s.capacity then
        .ok (⟨s.base.toNat + s.nextOffset⟩, { s with used := s.nextOffset + size })
      else if s.nextOffset + size < Word.limit then
        .error (.error (.exhausted size s.available s.capacity))
      else .error (.defect .addOverflow) := by
  by_cases hfit : s.nextOffset + size ≤ s.capacity
  · have hstart : s.base.toNat + s.nextOffset = Word.roundUp s.low s.alignment.bytes :=
      Nat.add_sub_cancel' s.base_le_roundUp
    rw [if_pos hfit, hstart]
    refine (push_eq_ok_iff hs).2 ⟨?_, rfl, rfl⟩
    rw [← hstart, high]
    omega
  · rw [if_neg hfit, push, hs.nextAddress_eq]
    -- The end is computed, and only then compared with the capacity.
    change ((liftM (Word.add s.nextOffset size) : Except (Failure StackError) Nat) >>= _) = _
    by_cases hlt : s.nextOffset + size < Word.limit
    · rw [Word.add_of_lt hlt, if_pos hlt]
      exact if_pos (Nat.not_le.1 hfit)
    · rw [Word.add, if_neg hlt, if_neg hlt]
      rfl

/-- What a new stack answers to a push, whatever was asked of it before. If the range ends in the
    allocation, it is handed out. If it ends behind it, the stack is exhausted, unless the end is
    no word: then the arithmetic stops the push. Either way, the stack is left as it is. -/
theorem push_answers (h : create d capacity = (.ok s, d')) (calls : List Call) (size : Nat) :
    ((∃ p t, (s.afterAll calls).push size = .ok (p, t)) ↔
      (s.afterAll calls).nextOffset + size ≤ capacity) ∧
    ((s.afterAll calls).push size =
        .error (.error (.exhausted size (capacity - (s.afterAll calls).used) capacity)) ↔
      capacity < (s.afterAll calls).nextOffset + size ∧
        (s.afterAll calls).nextOffset + size < Word.limit) ∧
    ((s.afterAll calls).push size = .error (.defect .addOverflow) ↔
      Word.limit ≤ (s.afterAll calls).nextOffset + size) ∧
    (capacity < (s.afterAll calls).nextOffset + size →
      (s.afterAll calls).after (.push size) = s.afterAll calls) := by
  obtain ⟨hs, -, -, hcapacity, -⟩ := afterAll_of_create h calls
  have hroom := hs.room
  have hpush := push_eq hs size
  rw [high, hcapacity] at hroom
  rw [available, hcapacity] at hpush
  generalize s.afterAll calls = t at *
  rw [after]
  by_cases hfit : t.nextOffset + size ≤ capacity
  · rw [if_pos hfit] at hpush
    refine ⟨iff_of_true ⟨_, _, hpush⟩ hfit, iff_of_false ?_ (by omega), iff_of_false ?_ (by omega),
      fun hlt => absurd hfit (Nat.not_le.2 hlt)⟩
    all_goals simp [hpush]
  · rw [if_neg hfit] at hpush
    by_cases hlt : t.nextOffset + size < Word.limit
    · rw [if_pos hlt] at hpush
      refine ⟨iff_of_false ?_ hfit, iff_of_true hpush ⟨Nat.not_le.1 hfit, hlt⟩,
        iff_of_false ?_ (Nat.not_le.2 hlt), fun _ => by rw [hpush]⟩
      all_goals simp [hpush]
    · rw [if_neg hlt] at hpush
      refine ⟨iff_of_false ?_ hfit, iff_of_false ?_ fun h => hlt h.2,
        iff_of_true hpush (Nat.not_lt.1 hlt), fun _ => by rw [hpush]⟩
      all_goals simp [hpush]

/-- After a push of 5 bytes the next range begins at 280 of 1000. One of 720 bytes just fits, one
    more byte is too much, and so is all that ends at a word. -/
theorem sample_push_answers :
    (∃ p t, (sample.afterAll [.push 5]).push 720 = .ok (p, t)) ∧
      (sample.afterAll [.push 5]).push 721 = .error (.error (.exhausted 721 971 1000)) ∧
      (sample.afterAll [.push 5]).push (Word.limit - 281) =
        .error (.error (.exhausted (Word.limit - 281) 971 1000)) ∧
      (sample.afterAll [.push 5]).push (Word.limit - 280) = .error (.defect .addOverflow) := by
  have hoffset : (sample.afterAll [.push 5]).nextOffset = 280 := by cbv
  have hused : (sample.afterAll [.push 5]).used = 29 := by cbv
  have hanswers := push_answers sample_create [.push 5]
  rw [hoffset, hused] at hanswers
  obtain ⟨hfits, -⟩ := hanswers 720
  obtain ⟨-, hbehind, -⟩ := hanswers 721
  obtain ⟨-, hlast, -⟩ := hanswers (Word.limit - 281)
  obtain ⟨-, -, hout, -⟩ := hanswers (Word.limit - 280)
  exact ⟨hfits.2 (by decide), hbehind.2 (by decide), hlast.2 (by decide), hout.2 (by decide)⟩

/-- Not every range that is too large exhausts the stack. On one that begins 24 bytes before an
    aligned address, one of the greatest size would end behind the last word. -/
theorem push_can_overflow :
    ¬∀ (held : List Buffer) (d d' : Device) (capacity : Nat) (s : BindingStack) (calls : List Call)
        (size : Nat), d.Reachable held → create d capacity = (.ok s, d') → size < Word.limit →
      capacity < (s.afterAll calls).nextOffset + size →
        (s.afterAll calls).push size =
          .error (.error (.exhausted size (capacity - (s.afterAll calls).used) capacity)) := by
  intro h
  have hexhausted := h [] .sample _ 1000 sample [] (Word.limit - 1) Device.sample_reachable
    sample_create (by decide) (by decide)
  have hpush : sample.push (Word.limit - 1) = .error (.defect .addOverflow) := by cbv
  cases hpush.symm.trans hexhausted

end GraphReplay.BindingStack
