import GraphReplay.Word

/-!
# Device addresses

An address is what a recorded graph carries, so it is a plain value: it is
compared, moved and printed, and says nothing about who owns the memory there.
-/

namespace GraphReplay

/-- A place in the memory of a device. -/
structure Address where
  toNat : Nat
  deriving DecidableEq, Repr

namespace Address

/-- The address that stands for no memory. -/
def null : Address := ⟨0⟩

instance : LT Address where
  lt p q := p.toNat < q.toNat

instance (p q : Address) : Decidable (p < q) := inferInstanceAs (Decidable (p.toNat < q.toNat))

/-- The address `bytes` further on. -/
def offset (p : Address) (bytes : Nat) : Except Defect Address :=
  (Word.add p.toNat bytes).map Address.mk

/-- Whether the address is a multiple of `alignment`. -/
def isAlignedTo (p : Address) (alignment : Nat) : Except Defect Bool :=
  (Word.rem p.toNat alignment).map (· == 0)

/-- The address in lower-case hexadecimal. -/
def render (p : Address) : String := "0x" ++ String.ofList (Nat.toDigits 16 p.toNat)

end Address

end GraphReplay
