/-!
# Tables

A table is a list of entries in increasing order of their keys, one per key.
`insert` keeps the order and replaces the entry of a key that is there, so a
table depends only on what was inserted last under each key, and reading it from
the front goes through the keys in order.

* `find?_insert_self`, `find?_insert_of_ne`: an insertion shows at its key and nowhere else.
-/

namespace GraphReplay

/-- Entries of `α` under keys of `κ`, in increasing order of the keys. -/
structure Table (κ α : Type) where
  entries : List (κ × α) := []
  deriving DecidableEq, Repr

namespace Table

variable {κ α : Type}

/-- The table without entries. -/
def empty : Table κ α := ⟨[]⟩

/-- The first entry under `k` in a list of entries. -/
def lookup [DecidableEq κ] (k : κ) : List (κ × α) → Option α
  | [] => none
  | (j, a) :: rest => if k = j then some a else lookup k rest

/-- The entry under `k`. -/
def find? [DecidableEq κ] (t : Table κ α) (k : κ) : Option α := lookup k t.entries

/-- Whether there is an entry under `k`. -/
def has [DecidableEq κ] (t : Table κ α) (k : κ) : Bool := (t.find? k).isSome

/-- The keys, in order. -/
def keys (t : Table κ α) : List κ := t.entries.map (·.1)

/-- The number of entries. -/
def size (t : Table κ α) : Nat := t.entries.length

/-- A list of entries with `a` under `k`, before the first larger key. -/
def insertEntry [LT κ] [DecidableLT κ] [DecidableEq κ] (k : κ) (a : α) :
    List (κ × α) → List (κ × α)
  | [] => [(k, a)]
  | (j, b) :: rest =>
    if k < j then (k, a) :: (j, b) :: rest
    else if k = j then (k, a) :: rest
    else (j, b) :: insertEntry k a rest

/-- Put `a` under `k`, in place of what was there. -/
def insert [LT κ] [DecidableLT κ] [DecidableEq κ] (t : Table κ α) (k : κ) (a : α) : Table κ α :=
  ⟨insertEntry k a t.entries⟩

/-- Take away the entry under `k`. -/
def erase [DecidableEq κ] (t : Table κ α) (k : κ) : Table κ α :=
  ⟨t.entries.filter (·.1 ≠ k)⟩

theorem lookup_insertEntry [LT κ] [DecidableLT κ] [DecidableEq κ] (k j : κ) (a : α)
    (l : List (κ × α)) :
    lookup j (insertEntry k a l) = if j = k then some a else lookup j l := by
  induction l with
  | nil => rfl
  | cons e rest ih =>
    obtain ⟨i, b⟩ := e
    rw [insertEntry]
    split
    · rfl
    · split
      · next h => by_cases hj : j = k <;> simp [lookup, ← h, hj]
      · next h =>
        rw [lookup, ih, lookup]
        by_cases hj : j = k
        · subst hj; simp [h]
        · simp [hj]

/-- What was just inserted is found. -/
theorem find?_insert_self [LT κ] [DecidableLT κ] [DecidableEq κ] (t : Table κ α) (k : κ) (a : α) :
    (t.insert k a).find? k = some a := by
  simp [find?, insert, lookup_insertEntry]

/-- An insertion does not show at another key. -/
theorem find?_insert_of_ne [LT κ] [DecidableLT κ] [DecidableEq κ] (t : Table κ α) {k j : κ}
    (a : α) (h : j ≠ k) : (t.insert k a).find? j = t.find? j := by
  simp [find?, insert, lookup_insertEntry, h]

end Table

end GraphReplay
