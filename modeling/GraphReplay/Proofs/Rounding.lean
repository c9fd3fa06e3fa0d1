import GraphReplay.Word
import Mathlib.Order.Bounds.Basic

/-!
# Rounding up

The multiple that rounding up looks for, in unbounded arithmetic (`roundUp`),
and when the checked `alignUp` finds it.

* `roundUp_le`: it is the least multiple that is not smaller;
* `alignUp_eq_ok_iff`: `alignUp` gives it or nothing. Off the multiples it needs
  room for a whole alignment above the size;
* `add_lt_limit_of_isPowerOfTwo`: where the alignment is a power of two, the words end
  with a multiple, so room for the least multiple is room enough;
* `alignUp_answers`: all of this together.
-/

namespace GraphReplay.Word

/-- The least multiple of `alignment` that is not below `size`. -/
def roundUp (size alignment : Nat) : Nat := (size + alignment - 1) / alignment * alignment

variable {size alignment c : Nat}

theorem dvd_roundUp (size alignment : Nat) : alignment ∣ roundUp size alignment :=
  Nat.dvd_mul_left _ _

theorem roundUp_of_mod_eq_zero (hpos : 0 < alignment) (h : size % alignment = 0) :
    roundUp size alignment = size := by
  obtain ⟨k, rfl⟩ := Nat.dvd_of_mod_eq_zero h
  have hk : (alignment * k + alignment - 1) / alignment = k := by
    rw [Nat.add_sub_assoc hpos, Nat.mul_add_div hpos, Nat.div_eq_of_lt (by omega), Nat.add_zero]
  rw [roundUp, hk, Nat.mul_comm]

theorem roundUp_of_mod_ne_zero (hpos : 0 < alignment) (h : size % alignment ≠ 0) :
    roundUp size alignment = size + alignment - size % alignment := by
  -- The quotient goes up by one, because the excess is at least one.
  have hdm := Nat.div_add_mod size alignment
  have hlt := Nat.mod_lt size hpos
  have hq : size + alignment - 1 = alignment * (size / alignment + 1) + (size % alignment - 1) := by
    rw [Nat.mul_succ]
    omega
  have hzero : (size % alignment - 1) / alignment = 0 := Nat.div_eq_of_lt (by omega)
  rw [roundUp, hq, Nat.mul_add_div hpos, hzero, Nat.add_zero, Nat.mul_comm, Nat.mul_succ]
  omega

theorem le_roundUp (hpos : 0 < alignment) : size ≤ roundUp size alignment := by
  by_cases h : size % alignment = 0
  · exact Nat.le_of_eq (roundUp_of_mod_eq_zero hpos h).symm
  · rw [roundUp_of_mod_ne_zero hpos h]
    have := Nat.mod_lt size hpos
    omega

/-- Less than one alignment is added. -/
theorem roundUp_lt (hpos : 0 < alignment) : roundUp size alignment < size + alignment := by
  by_cases h : size % alignment = 0
  · rw [roundUp_of_mod_eq_zero hpos h]
    omega
  · rw [roundUp_of_mod_ne_zero hpos h]
    omega

/-- No smaller multiple will do. -/
theorem roundUp_le (hpos : 0 < alignment) (hc : alignment ∣ c) (h : size ≤ c) :
    roundUp size alignment ≤ c := by
  obtain ⟨k, rfl⟩ := hc
  have hlt : (size + alignment - 1) / alignment < k + 1 := by
    rw [Nat.div_lt_iff_lt_mul hpos, Nat.add_mul, Nat.one_mul, Nat.mul_comm k]
    omega
  rw [roundUp, Nat.mul_comm]
  exact Nat.mul_le_mul_left _ (Nat.le_of_lt_succ hlt)

/-- Checked rounding gives the least multiple; it fails if the size is no multiple and there is no
    room for the alignment above it. -/
theorem alignUp_eq_ok_iff (hpos : 0 < alignment) :
    alignUp size alignment = .ok c ↔
      (alignment ∣ size ∨ size + alignment < limit) ∧ c = roundUp size alignment := by
  by_cases h : size % alignment = 0
  · rw [alignUp_of_mod_eq_zero hpos h, roundUp_of_mod_eq_zero hpos h]
    simp [Nat.dvd_of_mod_eq_zero h, eq_comm]
  · rw [alignUp_of_mod_ne_zero hpos h, roundUp_of_mod_ne_zero hpos h]
    have hdvd : ¬alignment ∣ size := fun hd => h (Nat.mod_eq_zero_of_dvd hd)
    by_cases hlt : size + alignment < limit
    · simp [add_of_lt hlt, Except.map, hlt, eq_comm]
    · simp [add, hlt, Except.map, hdvd]

theorem isLeast_roundUp (hpos : 0 < alignment) :
    IsLeast {m | alignment ∣ m ∧ size ≤ m} (roundUp size alignment) :=
  ⟨⟨dvd_roundUp _ _, le_roundUp hpos⟩, fun _ hm => roundUp_le hpos hm.1 hm.2⟩

theorem roundUp_mono {size' : Nat} (hpos : 0 < alignment) (h : size ≤ size') :
    roundUp size alignment ≤ roundUp size' alignment :=
  roundUp_le hpos (dvd_roundUp _ _) (Nat.le_trans h (le_roundUp hpos))

/-- Where there is no failure, the multiple is a word. -/
theorem roundUp_lt_limit (hsize : size < limit) (hpos : 0 < alignment)
    (h : alignment ∣ size ∨ size + alignment < limit) : roundUp size alignment < limit := by
  rcases h with hdvd | hlt
  · rw [roundUp_of_mod_eq_zero hpos (Nat.mod_eq_zero_of_dvd hdvd)]
    exact hsize
  · exact Nat.lt_trans (roundUp_lt hpos) hlt

/-- Checked rounding fails for one reason only. -/
theorem alignUp_eq_error_iff (hpos : 0 < alignment) {d : Defect} :
    alignUp size alignment = .error d ↔
      d = .addOverflow ∧ ¬alignment ∣ size ∧ limit ≤ size + alignment := by
  by_cases h : size % alignment = 0
  · rw [alignUp_of_mod_eq_zero hpos h]
    simp [Nat.dvd_of_mod_eq_zero h]
  · rw [alignUp_of_mod_ne_zero hpos h]
    have hdvd : ¬alignment ∣ size := fun hd => h (Nat.mod_eq_zero_of_dvd hd)
    by_cases hlt : size + alignment < limit
    · simp [add_of_lt hlt, Except.map, hlt]
    · simp [add, hlt, Except.map, hdvd, Nat.not_lt.1 hlt, eq_comm]

/-- The words end with a multiple of every power of two, unless it is too large to be a word. -/
theorem dvd_limit_of_isPowerOfTwo (h : alignment.isPowerOfTwo) (hle : alignment ≤ limit) :
    alignment ∣ limit := by
  obtain ⟨k, rfl⟩ := h
  have hk : k ≤ 64 := (Nat.pow_le_pow_iff_right (by decide : 1 < 2)).1 hle
  exact Nat.pow_dvd_pow 2 hk

/-- Between a multiple that is a word and the end of the words there is room for a power of two. -/
theorem add_lt_limit_of_isPowerOfTwo (h : alignment.isPowerOfTwo) (hsize : ¬alignment ∣ size)
    (hc : alignment ∣ c) (hle : size ≤ c) (hlt : c < limit) : size + alignment < limit := by
  have hne : size ≠ c := fun heq => hsize (heq ▸ hc)
  rcases Nat.lt_or_ge limit alignment with hover | hle'
  · -- Only zero is both a word and a multiple of so large a number.
    have hzero : c = 0 := Nat.eq_zero_of_dvd_of_lt hc (Nat.lt_trans hlt hover)
    omega
  · have hdvd : alignment ∣ limit - c := Nat.dvd_sub (dvd_limit_of_isPowerOfTwo h hle') hc
    have hroom : alignment ≤ limit - c := Nat.le_of_dvd (Nat.sub_pos_of_lt hlt) hdvd
    omega

/-- By a power of two, the least multiple is no word exactly where there is no room for the alignment
    either. -/
theorem limit_le_roundUp_iff (h : alignment.isPowerOfTwo) (hsize : size < limit) :
    limit ≤ roundUp size alignment ↔ ¬alignment ∣ size ∧ limit ≤ size + alignment := by
  have hpos := Nat.pos_of_isPowerOfTwo h
  constructor
  · intro hover
    refine ⟨fun hdvd => Nat.not_lt.2 hover (roundUp_lt_limit hsize hpos (.inl hdvd)), ?_⟩
    exact Nat.le_of_lt (Nat.lt_of_le_of_lt hover (roundUp_lt hpos))
  · rintro ⟨hdvd, hover⟩
    refine Nat.not_lt.1 fun hlt => Nat.not_lt.2 hover ?_
    exact add_lt_limit_of_isPowerOfTwo h hdvd (dvd_roundUp _ _) (le_roundUp hpos) hlt

/-- The answers of checked rounding. It fails exactly off the multiples where there is no room for a
    whole alignment above the size, and then the sum is what overflows. If not, it gives the least
    multiple that is not below the size. So it keeps the order of sizes, and what it gives is its
    own rounding. By a power of two it fails exactly where the least multiple is no word, and gives
    one wherever there is one. -/
theorem alignUp_answers (size alignment : Nat) (hsize : size < limit) (hpos : 0 < alignment) :
    ((∃ d, alignUp size alignment = .error d) ↔ ¬alignment ∣ size ∧ limit ≤ size + alignment) ∧
    (∀ d, alignUp size alignment = .error d → d = .addOverflow) ∧
    (alignment ∣ size ∨ size + alignment < limit →
      ∃ m < limit, alignUp size alignment = .ok m ∧ IsLeast {m | alignment ∣ m ∧ size ≤ m} m) ∧
    (∀ size' m m', size ≤ size' → alignUp size alignment = .ok m →
      alignUp size' alignment = .ok m' → m ≤ m') ∧
    (∀ m, alignUp size alignment = .ok m → alignUp m alignment = .ok m) ∧
    (alignment.isPowerOfTwo →
      (∀ m, IsLeast {m | alignment ∣ m ∧ size ≤ m} m →
        ((∃ d, alignUp size alignment = .error d) ↔ limit ≤ m)) ∧
      ∀ c, alignment ∣ c → size ≤ c → c < limit → ∃ m ≤ c, alignUp size alignment = .ok m) := by
  have hfails : (∃ d, alignUp size alignment = .error d) ↔
      ¬alignment ∣ size ∧ limit ≤ size + alignment := by
    simp [alignUp_eq_error_iff hpos]
  refine ⟨hfails, fun d hd => ((alignUp_eq_error_iff hpos).1 hd).1, ?least, ?mono, ?idempotent,
    fun htwo => ⟨?unfit, ?found⟩⟩
  case least =>
    intro hroom
    exact ⟨_, roundUp_lt_limit hsize hpos hroom, (alignUp_eq_ok_iff hpos).2 ⟨hroom, rfl⟩,
      isLeast_roundUp hpos⟩
  case mono =>
    intro size' m m' hle hm hm'
    rw [((alignUp_eq_ok_iff hpos).1 hm).2, ((alignUp_eq_ok_iff hpos).1 hm').2]
    exact roundUp_mono hpos hle
  case idempotent =>
    intro m hm
    have hdvd : alignment ∣ m := ((alignUp_eq_ok_iff hpos).1 hm).2 ▸ dvd_roundUp _ _
    exact alignUp_of_mod_eq_zero hpos (Nat.mod_eq_zero_of_dvd hdvd)
  case unfit =>
    intro m hm
    rw [hfails, hm.unique (isLeast_roundUp hpos), limit_le_roundUp_iff htwo hsize]
  case found =>
    intro c hc hle hlt
    have hroom : alignment ∣ size ∨ size + alignment < limit :=
      or_iff_not_imp_left.2 fun hdvd => add_lt_limit_of_isPowerOfTwo htwo hdvd hc hle hlt
    exact ⟨_, roundUp_le hpos hc hle, (alignUp_eq_ok_iff hpos).2 ⟨hroom, rfl⟩⟩

/-- From 300 below the end of the words, the last multiple of 384 is not found, although it is a
    word. That of 256 is the same, and it is found. Behind it there is none that is a word. -/
theorem alignUp_answers_limits :
    (384 ∣ limit - 256 ∧ ∃ d, alignUp (limit - 300) 384 = .error d) ∧
      (∃ m ≤ limit - 256, alignUp (limit - 300) 256 = .ok m ∧ alignUp m 256 = .ok m) ∧
      ∀ m, IsLeast {m | 256 ∣ m ∧ limit - 200 ≤ m} m → limit ≤ m := by
  have htwo : Nat.isPowerOfTwo 256 := ⟨8, rfl⟩
  have hwide := alignUp_answers (limit - 300) 384 (by decide) (by decide)
  have hnarrow := alignUp_answers (limit - 300) 256 (by decide) (by decide)
  have hlast := alignUp_answers (limit - 200) 256 (by decide) (by decide)
  obtain ⟨m, hle, hm⟩ := (hnarrow.2.2.2.2.2 htwo).2 (limit - 256) (by decide) (by decide) (by decide)
  have hover : ∃ d, alignUp (limit - 200) 256 = .error d := hlast.1.2 ⟨by decide, by decide⟩
  exact ⟨⟨by decide, hwide.1.2 ⟨by decide, by decide⟩⟩, ⟨m, hle, hm, hnarrow.2.2.2.2.1 m hm⟩,
    fun m hm => ((hlast.2.2.2.2.2 htwo).1 m hm).1 hover⟩

end GraphReplay.Word
