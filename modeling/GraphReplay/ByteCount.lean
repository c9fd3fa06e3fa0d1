/-!
# Byte counts as text

A count below 1024 is written in full (`512B`). A larger one is written in the
largest unit that it reaches, up to TiB, with one decimal (`1.5MiB`).

The count first becomes a number of 53 significant binary digits, then it is
divided by its unit, which is exact, and rounded to tenths. Both roundings go
to the nearer neighbour and, from the exact middle, to the even one. Only
counts above `2 ^ 53` are changed by the first. All of it is integer arithmetic.
-/

namespace GraphReplay.ByteCount

/-- `a / b` rounded to the nearest integer, to the even one from the middle between two. -/
def divNearest (a b : Nat) : Nat :=
  let q := a / b
  let r := a % b
  if 2 * r < b then q
  else if b < 2 * r then q + 1
  else q + q % 2

/-- The number of 53 significant binary digits nearest to `n`. -/
def toSignificant (n : Nat) : Nat :=
  let unit := Nat.pow 2 (n.log2 - 52)
  divNearest n unit * unit

/-- The units above the byte, smallest first. -/
def units : List String := ["KiB", "MiB", "GiB", "TiB"]

/-- The unit for `value`, with its size in bytes: the largest in `names` that `value` reaches,
    where `bytes` is the size of the first one. -/
def chooseUnit (value bytes : Nat) : List String → String × Nat
  | [] => ("B", 1)
  | [name] => (name, bytes)
  | name :: names =>
    if value < bytes * 1024 then (name, bytes) else chooseUnit value (bytes * 1024) names

/-- The tenths of `bytes` in `value`. -/
def tenths (value bytes : Nat) : Nat := divNearest (10 * value) bytes

/-- A number of tenths in decimal. -/
def renderTenths (t : Nat) : String := toString (t / 10) ++ "." ++ toString (t % 10)

/-- The text of a count of `n` bytes. -/
def render (n : Nat) : String :=
  if n < 1024 then toString n ++ "B"
  else
    let value := toSignificant n
    let (name, bytes) := chooseUnit value 1024 units
    renderTenths (tenths value bytes) ++ name

end GraphReplay.ByteCount
