import GraphReplay.Defect

/-!
# Words

Sizes, addresses and handle numbers are words: natural numbers below `2 ^ 64`.
They are kept as `Nat`, and the operations that could leave the words are
checked: `add` and `mul` give the exact result or a defect, never a wrapped one.

`alignUp` rounds up to a multiple. It adds the whole alignment before it takes
the excess away, so it can fail although the multiple it looks for would fit;
for a multiple it adds nothing and cannot fail.
-/

namespace GraphReplay.Word

/-- The first number that is not a word. -/
def limit : Nat := 0x10000000000000000

/-- The sum of two words. -/
def add (a b : Nat) : Except Defect Nat :=
  if a + b < limit then .ok (a + b) else .error .addOverflow

/-- The product of two words. -/
def mul (a b : Nat) : Except Defect Nat :=
  if a * b < limit then .ok (a * b) else .error .mulOverflow

/-- The remainder of `a` by `b`. -/
def rem (a b : Nat) : Except Defect Nat :=
  if b = 0 then .error .zeroDivisor else .ok (a % b)

/-- `size` rounded up to a multiple of `alignment`. -/
def alignUp (size alignment : Nat) : Except Defect Nat := do
  let excess ← rem size alignment
  if excess = 0 then return size
  return (← add size alignment) - excess

theorem add_of_lt {a b : Nat} (h : a + b < limit) : add a b = .ok (a + b) := if_pos h

theorem add_eq_ok_iff {a b c : Nat} : add a b = .ok c ↔ a + b < limit ∧ c = a + b := by
  unfold add
  split
  · next h => simp [h, eq_comm]
  · next h => simp [h]

theorem mul_of_lt {a b : Nat} (h : a * b < limit) : mul a b = .ok (a * b) := if_pos h

theorem mul_eq_ok_iff {a b c : Nat} : mul a b = .ok c ↔ a * b < limit ∧ c = a * b := by
  unfold mul
  split
  · next h => simp [h, eq_comm]
  · next h => simp [h]

/-- A multiple is its own rounding, however large it is. -/
theorem alignUp_of_mod_eq_zero {size alignment : Nat} (hpos : 0 < alignment)
    (h : size % alignment = 0) : alignUp size alignment = .ok size := by
  simp [alignUp, rem, Nat.ne_of_gt hpos, h, pure, Except.pure, bind, Except.bind]

/-- Off the multiples, the alignment is added in full before the excess comes off. -/
theorem alignUp_of_mod_ne_zero {size alignment : Nat} (hpos : 0 < alignment)
    (h : size % alignment ≠ 0) :
    alignUp size alignment = (add size alignment).map (· - size % alignment) := by
  simp only [alignUp, rem, Nat.ne_of_gt hpos, h, if_false, bind, Except.bind]
  cases add size alignment <;> rfl

end GraphReplay.Word
