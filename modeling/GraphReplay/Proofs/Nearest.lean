import GraphReplay.ByteCount
import Mathlib.Algebra.Order.Ring.Int
import Mathlib.Algebra.Order.Group.Unbundled.Abs
import Mathlib.Algebra.Order.Ring.Abs

/-!
# Rounding to the nearest

`divNearest` gives the integer nearest to a quotient, and of two that are equally
near the even one. `toSignificant` goes by it: the last of the 53 binary digits of a
number has a value of its own in each stretch between two powers of two (`ulp`), and
what is rounded is how often it goes into the number.

* `divNearest_bounds`: no quotient moves by more than a half;
* `even_divNearest_of_tie`: the even one is taken from the middle;
* `divNearest_mono`, `toSignificant_mono`: rounding keeps the order;
* `toSignificant_nearest`: no number of 53 digits is nearer, also none of another stretch;
* `RoundsTo`: what the rounded number has to be (`roundsTo_toSignificant`);
* `abs_sub_toSignificant_le`: counts that are words move by 1024 at most.
-/

namespace GraphReplay.ByteCount

/-! ## Quotients -/

section Quotients

variable {a a' b : Nat}

/-- The nearest multiple is half a unit away at most. -/
theorem divNearest_bounds (hb : 0 < b) :
    2 * a ≤ 2 * (b * divNearest a b) + b ∧ 2 * (b * divNearest a b) ≤ 2 * a + b := by
  have hdm := Nat.div_add_mod a b
  have hlt := Nat.mod_lt a hb
  rw [divNearest]
  split
  · omega
  · split
    · rw [Nat.mul_succ]
      omega
    · rcases Nat.mod_two_eq_zero_or_one (a / b) with h | h
      · rw [h, Nat.add_zero]
        omega
      · rw [h, Nat.mul_succ]
        omega

/-- From the middle, the even multiple is taken. -/
theorem even_divNearest_of_tie (hb : 0 < b)
    (h : 2 * a = 2 * (b * divNearest a b) + b ∨ 2 * (b * divNearest a b) = 2 * a + b) :
    Even (divNearest a b) := by
  have hdm := Nat.div_add_mod a b
  have hlt := Nat.mod_lt a hb
  rw [divNearest] at h ⊢
  split
  · next hlow =>
    rw [if_pos hlow] at h
    omega
  · next hlow =>
    rw [if_neg hlow] at h
    split
    · next hhigh =>
      rw [if_pos hhigh, Nat.mul_succ] at h
      omega
    · rw [Nat.even_iff]
      omega

/-- No multiple is nearer. -/
theorem divNearest_nearest (hb : 0 < b) (k : Nat) :
    |(a : ℤ) - (b * divNearest a b : Nat)| ≤ |(a : ℤ) - (b * k : Nat)| := by
  obtain ⟨hlow, hhigh⟩ := divNearest_bounds (a := a) hb
  have hleft := abs_cases ((a : ℤ) - (b * divNearest a b : Nat))
  have hright := abs_cases ((a : ℤ) - (b * k : Nat))
  rcases Nat.lt_trichotomy k (divNearest a b) with h | rfl | h
  · have hle : b * (k + 1) ≤ b * divNearest a b := Nat.mul_le_mul_left b h
    rw [Nat.mul_succ] at hle
    omega
  · exact le_rfl
  · have hle : b * (divNearest a b + 1) ≤ b * k := Nat.mul_le_mul_left b h
    rw [Nat.mul_succ] at hle
    omega

/-- A multiple is divided without rounding. -/
theorem mul_divNearest (hb : 0 < b) (k : Nat) : divNearest (b * k) b = k := by
  simp [divNearest, Nat.mul_div_cancel_left _ hb, hb]

theorem divNearest_mono (hb : 0 < b) (h : a ≤ a') : divNearest a b ≤ divNearest a' b := by
  obtain ⟨hlow, -⟩ := divNearest_bounds (a := a') hb
  obtain ⟨-, hhigh⟩ := divNearest_bounds (a := a) hb
  by_contra hlt
  -- Then both lie in the middle between the two multiples.
  have hle : b * (divNearest a' b + 1) ≤ b * divNearest a b :=
    Nat.mul_le_mul_left b (Nat.not_le.1 hlt)
  rw [Nat.mul_succ] at hle
  obtain rfl : a = a' := by omega
  exact hlt le_rfl

/-- What lies between two multiples is rounded to none outside of them. -/
theorem divNearest_le {k : Nat} (hb : 0 < b) (h : a ≤ b * k) : divNearest a b ≤ k :=
  mul_divNearest hb k ▸ divNearest_mono hb h

theorem le_divNearest {k : Nat} (hb : 0 < b) (h : b * k ≤ a) : k ≤ divNearest a b :=
  mul_divNearest hb k ▸ divNearest_mono hb h

end Quotients

/-! ## Significant digits -/

section Digits

variable {n m x : Nat}

/-- The number has 53 significant binary digits at most. -/
def Significant (x : Nat) : Prop := ∃ m e, m < 2 ^ 53 ∧ x = m * 2 ^ e

theorem significant_of_lt (h : n < 2 ^ 53) : Significant n := ⟨n, 0, h, (Nat.mul_one n).symm⟩

/-- The value of the last of 53 binary digits of a number; it is 1 if there are not as many. -/
def ulp (n : Nat) : Nat := 2 ^ (n.log2 - 52)

theorem ulp_pos (n : Nat) : 0 < ulp n := Nat.two_pow_pos _

theorem toSignificant_eq (n : Nat) : toSignificant n = ulp n * divNearest n (ulp n) :=
  Nat.mul_comm _ _

/-- The powers of two that a number lies between are multiples of its last digit. -/
theorem ulp_dvd (n : Nat) {j : Nat} (h : n.log2 ≤ j) : ulp n ∣ 2 ^ j :=
  Nat.pow_dvd_pow 2 (by omega)

/-- What is a multiple of the last digit is kept below a number, and above it, by rounding. -/
theorem toSignificant_le_of_dvd (hx : ulp n ∣ x) (h : n ≤ x) : toSignificant n ≤ x := by
  obtain ⟨k, rfl⟩ := hx
  rw [toSignificant_eq]
  exact Nat.mul_le_mul_left _ (divNearest_le (ulp_pos n) h)

theorem le_toSignificant_of_dvd (hx : ulp n ∣ x) (h : x ≤ n) : x ≤ toSignificant n := by
  obtain ⟨k, rfl⟩ := hx
  rw [toSignificant_eq]
  exact Nat.mul_le_mul_left _ (le_divNearest (ulp_pos n) h)

theorem toSignificant_mono (h : n ≤ m) : toSignificant n ≤ toSignificant m := by
  rcases Nat.eq_zero_or_pos n with rfl | hn
  · exact Nat.zero_le _
  have hm : m ≠ 0 := Nat.ne_of_gt (Nat.lt_of_lt_of_le hn h)
  have hlog : n.log2 ≤ m.log2 :=
    (Nat.le_log2 hm).2 (Nat.le_trans (Nat.log2_self_le (Nat.ne_of_gt hn)) h)
  rcases Nat.eq_or_lt_of_le hlog with heq | hlt
  · have hulp : ulp n = ulp m := by rw [ulp, ulp, heq]
    rw [toSignificant_eq, toSignificant_eq, hulp]
    exact Nat.mul_le_mul_left _ (divNearest_mono (ulp_pos m) h)
  · -- A power of two is between them, and stays there.
    calc
      toSignificant n ≤ 2 ^ (n.log2 + 1) :=
        toSignificant_le_of_dvd (ulp_dvd n (Nat.le_succ _)) (Nat.le_of_lt Nat.lt_log2_self)
      _ ≤ 2 ^ m.log2 := Nat.pow_le_pow_right Nat.two_pos hlt
      _ ≤ toSignificant m :=
        le_toSignificant_of_dvd (ulp_dvd m (Nat.le_refl _)) (Nat.log2_self_le hm)

/-- A number of 53 digits that is not below the stretch of `n` is a multiple of the last digit. -/
theorem Significant.ulp_dvd (hx : Significant x) (h : 2 ^ n.log2 ≤ x) : ulp n ∣ x := by
  obtain ⟨k, e, hk, rfl⟩ := hx
  have hlt : 2 ^ n.log2 < 2 ^ (53 + e) := by
    rw [Nat.pow_add]
    exact Nat.lt_of_le_of_lt h (Nat.mul_lt_mul_of_pos_right hk (Nat.two_pow_pos e))
  have hlog : n.log2 < 53 + e := (Nat.pow_lt_pow_iff_right (by decide)).1 hlt
  exact Nat.dvd_mul_left_of_dvd (Nat.pow_dvd_pow 2 (by omega)) k

theorem significant_toSignificant (n : Nat) : Significant (toSignificant n) := by
  have hle : toSignificant n ≤ ulp n * 2 ^ 53 := by
    refine toSignificant_le_of_dvd (Nat.dvd_mul_right _ _) ?_
    rw [ulp, ← Nat.pow_add]
    exact Nat.le_trans (Nat.le_of_lt Nat.lt_log2_self) (Nat.pow_le_pow_right Nat.two_pos (by omega))
  rw [toSignificant_eq] at hle ⊢
  rcases Nat.lt_or_eq_of_le (Nat.le_of_mul_le_mul_left hle (ulp_pos n)) with hlt | heq
  · exact ⟨_, _, hlt, Nat.mul_comm _ _⟩
  · -- The next power of two has one digit.
    exact ⟨1, n.log2 - 52 + 53, by decide, by rw [heq, ulp, ← Nat.pow_add, Nat.one_mul]⟩

/-- No number of 53 digits is nearer to `n`. -/
theorem toSignificant_nearest (hx : Significant x) :
    |(n : ℤ) - toSignificant n| ≤ |(n : ℤ) - x| := by
  rcases Nat.eq_zero_or_pos n with rfl | hn
  · have hzero : toSignificant 0 = 0 := rfl
    rw [hzero, sub_self, abs_zero]
    exact abs_nonneg _
  rw [toSignificant_eq]
  by_cases h : 2 ^ n.log2 ≤ x
  · obtain ⟨k, rfl⟩ := hx.ulp_dvd h
    exact divNearest_nearest (ulp_pos n) k
  · -- Below the stretch of `n` its lower end is nearest, and that is a multiple of the last digit.
    obtain ⟨k, hk⟩ := ulp_dvd n (Nat.le_refl n.log2)
    have hself := Nat.log2_self_le (Nat.ne_of_gt hn)
    have hnear := divNearest_nearest (a := n) (ulp_pos n) k
    rw [← hk, abs_of_nonneg (a := (n : ℤ) - (2 ^ n.log2 : Nat)) (by omega)] at hnear
    rw [abs_of_nonneg (a := (n : ℤ) - x) (by omega)]
    omega

/-- From the middle between two neighbours, the one with the even last digit is taken. -/
theorem even_of_tie (h : 2 * |(n : ℤ) - toSignificant n| = ulp n) :
    Even (toSignificant n / ulp n) := by
  rw [toSignificant_eq] at h ⊢
  rw [Nat.mul_div_cancel_left _ (ulp_pos n)]
  refine even_divNearest_of_tie (ulp_pos n) ?_
  have hcases := abs_cases ((n : ℤ) - (ulp n * divNearest n (ulp n) : Nat))
  omega

/-- `x` is the number of 53 digits nearest to `n`. -/
structure RoundsTo (n x : Nat) : Prop where
  significant : Significant x
  nearest : ∀ y, Significant y → |(n : ℤ) - x| ≤ |(n : ℤ) - y|
  even : 2 * |(n : ℤ) - x| = ulp n → Even (x / ulp n)

theorem roundsTo_toSignificant (n : Nat) : RoundsTo n (toSignificant n) where
  significant := significant_toSignificant n
  nearest _ := toSignificant_nearest
  even := even_of_tie

/-- A word moves by 1024 at most. -/
theorem abs_sub_toSignificant_le (h : n < 2 ^ 64) : |(n : ℤ) - toSignificant n| ≤ 1024 := by
  have hulp : ulp n ≤ 2 ^ 11 := by
    rcases Nat.eq_zero_or_pos n with rfl | hn
    · decide
    · have hlog := (Nat.log2_lt (Nat.ne_of_gt hn)).2 h
      exact Nat.pow_le_pow_right Nat.two_pos (by omega)
  obtain ⟨hlow, hhigh⟩ := divNearest_bounds (a := n) (ulp_pos n)
  rw [← toSignificant_eq] at hlow hhigh
  rw [abs_le]
  omega

/-- Numbers of 53 digits stay as they are. -/
theorem Significant.toSignificant_eq (hx : Significant x) : toSignificant x = x := by
  have h := toSignificant_nearest (n := x) hx
  rw [sub_self, abs_zero, abs_nonpos_iff, sub_eq_zero] at h
  exact_mod_cast h.symm

end Digits

end GraphReplay.ByteCount
