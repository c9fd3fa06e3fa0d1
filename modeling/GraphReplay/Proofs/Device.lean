import GraphReplay.Device.Call
import GraphReplay.Proofs.Failure
import GraphReplay.Proofs.Rounding

/-!
# What device calls do

Each call either is answered by an armed fault, fails and changes nothing, or
succeeds (`guarded_cases`); an `_eq_ok_iff` lemma says when it succeeds and what
the device is then. The addresses that an allocation takes up, with the unused
space behind it, are its `span`.

Memory is handed out without a change of the alignment (`allocate_alignment`).
-/

namespace GraphReplay.Device

open Failure

variable {α : Type} {d d' : Device}

theorem disarm_alignment (d : Device) (p : FaultPoint) :
    (d.disarm p).alignment = d.alignment := rfl

theorem issue_alignment (d : Device) (ops : List Op) :
    (d.issue ops).alignment = d.alignment := by
  rw [issue]
  split <;> rfl

/-! ## Guarded calls -/

/-- What a call can come to: its fault, a failure that changes nothing, or a success. -/
theorem guarded_cases (d : Device) (p : FaultPoint)
    (attempt : Except (Failure DeviceError) (α × Device)) :
    (p ∈ d.armed ∧ d.guarded p attempt = (.error (.error (.injected p)), d.disarm p)) ∨
      (p ∉ d.armed ∧ ∃ f, attempt = .error f ∧ d.guarded p attempt = (.error f, d)) ∨
      (p ∉ d.armed ∧ ∃ a d', attempt = .ok (a, d') ∧ d.guarded p attempt = (.ok a, d')) := by
  by_cases hp : p ∈ d.armed
  · exact .inl ⟨hp, if_pos hp⟩
  · match attempt with
    | .error f => exact .inr (.inl ⟨hp, f, rfl, if_neg hp⟩)
    | .ok (a, d') => exact .inr (.inr ⟨hp, a, d', rfl, if_neg hp⟩)

theorem guarded_eq_ok_iff {p : FaultPoint} {attempt : Except (Failure DeviceError) (α × Device)}
    {a : α} : d.guarded p attempt = (.ok a, d') ↔ p ∉ d.armed ∧ attempt = .ok (a, d') := by
  rcases guarded_cases d p attempt with ⟨hp, h⟩ | ⟨hp, f, hf, h⟩ | ⟨hp, b, d₁, hb, h⟩
  · rw [h]
    simp [hp]
  · rw [h, hf]
    simp
  · rw [h, hb]
    simp [hp]

theorem guarded_alignment {p : FaultPoint} {attempt : Except (Failure DeviceError) (α × Device)}
    (h : ∀ a d', attempt = .ok (a, d') → d'.alignment = d.alignment) :
    (d.guarded p attempt).2.alignment = d.alignment := by
  rcases guarded_cases d p attempt with ⟨_, hg⟩ | ⟨_, f, _, hg⟩ | ⟨_, a, d', ha, hg⟩
  · rw [hg, disarm_alignment]
  · rw [hg]
  · rw [hg, h a d' ha]

/-! ## Allocations -/

/-- The addresses that an allocation of `bytes` takes up, with what is left unused behind it. -/
def span (d : Device) (bytes : Nat) : Nat :=
  Word.roundUp (max bytes 1) d.alignment.bytes + d.alignment.bytes

theorem addressAfter_eq_ok_iff {bytes next : Nat} :
    d.addressAfter bytes = .ok next ↔
      d.nextAddress + d.span bytes < Word.limit ∧ next = d.nextAddress + d.span bytes := by
  have hpos := d.alignment.bytes_pos
  simp only [addressAfter, bind_eq_ok_iff, Word.alignUp_eq_ok_iff hpos, Word.add_eq_ok_iff, span]
  constructor
  · rintro ⟨_, ⟨_, rfl⟩, _, ⟨_, rfl⟩, h⟩
    exact h
  · intro h
    -- The rounded size leaves room for the alignment, so the size does too.
    have hle : max bytes 1 ≤ Word.roundUp (max bytes 1) d.alignment.bytes := Word.le_roundUp hpos
    exact ⟨_, ⟨.inr (by omega), rfl⟩, _, ⟨by omega, rfl⟩, h⟩

/-- When memory is handed out, and what the device is then. -/
theorem allocate_eq_ok_iff {bytes : Nat} {b : Buffer} :
    d.allocate bytes = (.ok b, d') ↔
      .allocate ∉ d.armed ∧ d.nextAddress + d.span bytes < Word.limit ∧ b = ⟨⟨d.nextAddress⟩, bytes⟩ ∧
        d' = { d with nextAddress := d.nextAddress + d.span bytes
                      liveBuffers := d.liveBuffers + 1 }.record (.allocate ⟨d.nextAddress⟩ bytes) := by
  rw [allocate, guarded_eq_ok_iff]
  simp only [bind_eq_ok_iff, lift_eq_ok_iff, pure_eq_ok_iff, addressAfter_eq_ok_iff, Prod.mk.injEq]
  constructor
  · rintro ⟨hp, _, ⟨hlt, rfl⟩, rfl, rfl⟩
    exact ⟨hp, hlt, rfl, rfl⟩
  · rintro ⟨hp, hlt, rfl, rfl⟩
    exact ⟨hp, _, ⟨hlt, rfl⟩, rfl, rfl⟩

/-! ## Captures -/

theorem beginCapture_eq_ok_iff {mode : CaptureMode} {u : Unit} :
    d.beginCapture mode = (.ok u, d') ↔
      .beginCapture ∉ d.armed ∧ d.capture = none ∧
        d' = { d with capture := some [] }.record (.beginCapture mode) := by
  rw [beginCapture, guarded_eq_ok_iff]
  refine and_congr_right fun _ => ?_
  cases h : d.capture with
  | none => simp [eq_comm]
  | some ops => simp

theorem newHandle_eq_ok_iff {id : Nat} :
    d.newHandle = .ok (id, d') ↔
      d.lastHandle + 1 < Word.limit ∧ id = d.lastHandle + 1 ∧ d' = { d with lastHandle := id } := by
  simp only [newHandle, bind_eq_ok_iff, pure_eq_ok_iff, Word.add_eq_ok_iff, Prod.mk.injEq]
  constructor
  · rintro ⟨_, ⟨hlt, rfl⟩, rfl, rfl⟩
    exact ⟨hlt, rfl, rfl⟩
  · rintro ⟨hlt, rfl, rfl⟩
    exact ⟨_, ⟨hlt, rfl⟩, rfl, rfl⟩

/-- When the open capture becomes a graph, and what the device is then. -/
theorem endCapture_eq_ok_iff {g : Graph} :
    d.endCapture = (.ok g, d') ↔
      ∃ ops, d.capture = some ops ∧ .endCapture ∉ d.armed ∧ d.lastHandle + 1 < Word.limit ∧
        g = ⟨d.lastHandle + 1, ops⟩ ∧
        d' = { d with capture := none
                      lastHandle := d.lastHandle + 1
                      liveGraphs := d.liveGraphs ++ [d.lastHandle + 1] }.record
          (.endCapture (d.lastHandle + 1) ops.length) := by
  rw [endCapture]
  cases h : d.capture with
  | none => simp
  | some ops =>
    simp only [guarded_eq_ok_iff, bind_eq_ok_iff, lift_eq_ok_iff, pure_eq_ok_iff, Prod.exists,
      newHandle_eq_ok_iff, Prod.mk.injEq, Option.some.injEq]
    constructor
    · rintro ⟨hp, _, _, ⟨hlt, rfl, rfl⟩, rfl, rfl⟩
      exact ⟨ops, rfl, hp, hlt, rfl, rfl⟩
    · rintro ⟨_, rfl, hp, hlt, rfl, rfl⟩
      exact ⟨hp, _, _, ⟨hlt, rfl, rfl⟩, rfl, rfl⟩

/-- When a graph becomes an executor, and what the device is then. -/
theorem instantiate_eq_ok_iff {g : Graph} {e : Executor} :
    d.instantiate g = (.ok e, d') ↔
      .instantiate ∉ d.armed ∧ g.id ∈ d.liveGraphs ∧ d.lastHandle + 1 < Word.limit ∧
        e = ⟨d.lastHandle + 1, g.ops⟩ ∧
        d' = { d with lastHandle := d.lastHandle + 1
                      liveExecutors := d.liveExecutors ++ [d.lastHandle + 1] }.record
          (.instantiate g.id (d.lastHandle + 1)) := by
  rw [instantiate, guarded_eq_ok_iff]
  refine and_congr_right fun _ => ?_
  by_cases hg : g.id ∈ d.liveGraphs
  · simp only [if_pos hg, bind_eq_ok_iff, lift_eq_ok_iff, pure_eq_ok_iff, Prod.exists,
      newHandle_eq_ok_iff, Prod.mk.injEq]
    constructor
    · rintro ⟨_, _, ⟨hlt, rfl, rfl⟩, rfl, rfl⟩
      exact ⟨hg, hlt, rfl, rfl⟩
    · rintro ⟨_, hlt, rfl, rfl⟩
      exact ⟨_, _, ⟨hlt, rfl, rfl⟩, rfl, rfl⟩
  · simp [hg]

/-! ## The alignment -/

theorem alignment_of_answer {x : Answer α} {answer : Except (Failure DeviceError) α}
    (hx : x.2.alignment = d.alignment) (h : x = (answer, d')) : d'.alignment = d.alignment := by
  rw [h] at hx
  exact hx

theorem allocate_alignment (d : Device) (bytes : Nat) :
    (d.allocate bytes).2.alignment = d.alignment := by
  refine guarded_alignment fun b d' h => ?_
  simp only [bind_eq_ok_iff, pure_eq_ok_iff, Prod.mk.injEq] at h
  obtain ⟨_, _, _, rfl⟩ := h
  rfl

end GraphReplay.Device
