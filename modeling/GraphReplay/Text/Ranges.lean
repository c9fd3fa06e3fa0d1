/-!
# Ranges of code points

A set of characters, given by a standard, as closed ranges of code points in
ascending order. Ranges are *apart* if they do not even touch, so that a set is
written in one way only.
-/

namespace GraphReplay.Text

/-- A set of code points as closed ranges. -/
abbrev Ranges := List (Nat × Nat)

namespace Ranges

/-- Whether a character lies in one of the ranges. -/
def holds (rs : Ranges) (c : Char) : Bool := rs.any fun r => r.1 ≤ c.toNat && c.toNat ≤ r.2

/-- How many code points there are, if the ranges are apart. -/
def size (rs : Ranges) : Nat := rs.foldl (fun n r => n + (r.2 + 1 - r.1)) 0

/-- Whether the ranges are ascending and do not touch. -/
def apart : Ranges → Bool
  | [] => true
  | [r] => r.1 ≤ r.2
  | r :: s :: rest => r.1 ≤ r.2 && r.2 + 1 < s.1 && apart (s :: rest)

end Ranges

end GraphReplay.Text
