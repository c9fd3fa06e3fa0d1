import GraphReplay.Key
import GraphReplay.Table
import Mathlib.Order.Defs.Unbundled

/-!
# Ordered tables

Keys are in a strict total order, by name and then by batch size, and insertion
keeps a table in the order of its keys (`Ordered.insert`). In an ordered table a
key occurs once, so its entries are what looking up finds (`Ordered.mem_iff`). A
new key adds one entry and leaves the others as they are (`perm_insertEntry`).
-/

namespace GraphReplay

/-! ## The order of keys -/

instance : IsStrictTotalOrder Key (· < ·) where
  irrefl k h := by
    rcases h with h | ⟨_, h⟩
    · exact String.lt_irrefl _ h
    · exact Nat.lt_irrefl _ h
  trans j k l hjk hkl := by
    rcases hjk with hjk | ⟨hjk, hn⟩
    · rcases hkl with hkl | ⟨hkl, _⟩
      · exact .inl (String.lt_trans hjk hkl)
      · exact .inl (hkl ▸ hjk)
    · rcases hkl with hkl | ⟨hkl, hm⟩
      · exact .inl (hjk ▸ hkl)
      · exact .inr ⟨hjk.trans hkl, Nat.lt_trans hn hm⟩
  trichotomous j k hjk hkj := by
    obtain ⟨name, n⟩ := j
    obtain ⟨name', n'⟩ := k
    have hname : name = name' :=
      String.le_antisymm (String.not_lt.1 fun h => hkj (.inl h)) (String.not_lt.1 fun h => hjk (.inl h))
    subst hname
    have hn : n = n' := Nat.le_antisymm (Nat.not_lt.1 fun h => hkj (.inr ⟨rfl, h⟩))
      (Nat.not_lt.1 fun h => hjk (.inr ⟨rfl, h⟩))
    rw [hn]

namespace Table

variable {κ α : Type} [DecidableEq κ]

/-! ## Looking up -/

theorem find?_insert [LT κ] [DecidableLT κ] (t : Table κ α) (k j : κ) (a : α) :
    (t.insert k a).find? j = if j = k then some a else t.find? j :=
  lookup_insertEntry k j a t.entries

theorem mem_of_lookup {k : κ} {a : α} {l : List (κ × α)} (h : lookup k l = some a) : (k, a) ∈ l := by
  induction l with
  | nil => cases h
  | cons e l ih =>
    obtain ⟨j, b⟩ := e
    rw [lookup] at h
    split at h
    · next hk =>
      cases h
      exact hk ▸ List.mem_cons_self
    · exact List.mem_cons_of_mem _ (ih h)

/-- What is found is an entry. -/
theorem mem_of_find? {t : Table κ α} {k : κ} {a : α} (h : t.find? k = some a) : (k, a) ∈ t.entries :=
  mem_of_lookup h

theorem exists_lookup {k : κ} {l : List (κ × α)} (h : k ∈ l.map (·.1)) : ∃ a, lookup k l = some a := by
  induction l with
  | nil => cases h
  | cons e l ih =>
    obtain ⟨j, b⟩ := e
    rw [lookup]
    by_cases hk : k = j
    · exact ⟨b, if_pos hk⟩
    · rw [if_neg hk]
      exact ih ((List.mem_cons.1 h).resolve_left hk)

/-- The keys are what looking up finds something for. -/
theorem mem_keys_iff {t : Table κ α} {k : κ} : k ∈ t.keys ↔ ∃ a, t.find? k = some a :=
  ⟨exists_lookup, fun ⟨_, h⟩ => List.mem_map.2 ⟨_, mem_of_find? h, rfl⟩⟩

theorem mem_keys_insert [LT κ] [DecidableLT κ] (t : Table κ α) (k j : κ) (a : α) :
    j ∈ (t.insert k a).keys ↔ j = k ∨ j ∈ t.keys := by
  rw [mem_keys_iff, mem_keys_iff, find?_insert]
  by_cases hj : j = k <;> simp [hj]

/-! ## Mapped tables -/

section Mapped

variable {β : Type}

/-- The table with `f` of each entry under its key. -/
def map (f : α → β) (t : Table κ α) : Table κ β := ⟨t.entries.map (Prod.map id f)⟩

theorem lookup_map (f : α → β) (k : κ) (l : List (κ × α)) :
    lookup k (l.map (Prod.map id f)) = (lookup k l).map f := by
  induction l with
  | nil => rfl
  | cons e l ih =>
    obtain ⟨j, b⟩ := e
    simp only [List.map_cons, Prod.map_apply, id_eq, lookup, ih]
    split <;> rfl

theorem find?_map (f : α → β) (t : Table κ α) (k : κ) : (t.map f).find? k = (t.find? k).map f :=
  lookup_map f k t.entries

theorem insertEntry_map [LT κ] [DecidableLT κ] (f : α → β) (k : κ) (a : α) (l : List (κ × α)) :
    insertEntry k (f a) (l.map (Prod.map id f)) = (insertEntry k a l).map (Prod.map id f) := by
  induction l with
  | nil => rfl
  | cons e l ih =>
    obtain ⟨j, b⟩ := e
    simp only [List.map_cons, Prod.map_apply, id_eq, insertEntry, ih]
    split
    · rfl
    · split <;> rfl

theorem insert_map [LT κ] [DecidableLT κ] (f : α → β) (t : Table κ α) (k : κ) (a : α) :
    (t.map f).insert k (f a) = (t.insert k a).map f :=
  congrArg Table.mk (insertEntry_map f k a t.entries)

end Mapped

/-! ## New keys -/

section New

variable [LT κ] [DecidableLT κ]

theorem perm_insertEntry {k : κ} (a : α) {l : List (κ × α)} (h : lookup k l = none) :
    (insertEntry k a l).Perm ((k, a) :: l) := by
  induction l with
  | nil => rfl
  | cons e l ih =>
    obtain ⟨j, b⟩ := e
    rw [lookup] at h
    split at h
    · cases h
    · next hne =>
      rw [insertEntry, if_neg hne]
      split
      · rfl
      · exact ((ih h).cons _).trans (.swap _ _ _)

/-- The entry of a new key joins those that are there. -/
theorem perm_insert {β : Type} {t : Table κ α} {k : κ} {a : α} (h : t.find? k = none)
    (f : κ × α → β) {l l' : List β} (hl : l'.Perm (l ++ t.entries.map f)) :
    (l' ++ [f (k, a)]).Perm (l ++ (t.insert k a).entries.map f) := by
  have htable := (List.perm_append_singleton _ _).trans ((perm_insertEntry a h).map f).symm
  refine (hl.append_right _).trans ?_
  rw [List.append_assoc]
  exact htable.append_left l

end New

/-! ## Ordered tables -/

variable [LT κ]

/-- The keys are in strictly increasing order. -/
def Ordered (t : Table κ α) : Prop := t.keys.Pairwise (· < ·)

omit [DecidableEq κ] in
theorem ordered_empty : (empty : Table κ α).Ordered := List.Pairwise.nil

variable [IsStrictTotalOrder κ (· < ·)]

theorem lookup_of_mem {k : κ} {a : α} {l : List (κ × α)} (hl : (l.map (·.1)).Pairwise (· < ·))
    (h : (k, a) ∈ l) : lookup k l = some a := by
  induction l with
  | nil => exact absurd h List.not_mem_nil
  | cons e l ih =>
    obtain ⟨j, b⟩ := e
    rw [List.map_cons, List.pairwise_cons] at hl
    rw [lookup]
    rcases List.mem_cons.1 h with h | h
    · cases h
      exact if_pos rfl
    · have hjk : j < k := hl.1 k (List.mem_map.2 ⟨_, h, rfl⟩)
      rw [if_neg fun hk => irrefl j (hk ▸ hjk), ih hl.2 h]

/-- In an ordered table, the entries are what looking up finds. -/
theorem Ordered.mem_iff {t : Table κ α} (ht : t.Ordered) {k : κ} {a : α} :
    (k, a) ∈ t.entries ↔ t.find? k = some a :=
  ⟨lookup_of_mem ht, mem_of_find?⟩

omit [DecidableEq κ] in
theorem Ordered.nodup {t : Table κ α} (ht : t.Ordered) : t.keys.Nodup := by
  refine ht.imp ?_
  rintro j _ hlt rfl
  exact irrefl j hlt

variable [DecidableLT κ]

/-! ### Insertion -/

section Insertion

variable {i j k : κ}

omit [IsStrictTotalOrder κ (· < ·)] in
theorem insertEntry_of_lt (a b : α) (l : List (κ × α)) (h : k < j) :
    insertEntry k a ((j, b) :: l) = (k, a) :: (j, b) :: l :=
  if_pos h

theorem insertEntry_self (a b : α) (l : List (κ × α)) :
    insertEntry k a ((k, b) :: l) = (k, a) :: l := by
  rw [insertEntry, if_neg (irrefl k), if_pos rfl]

theorem insertEntry_of_gt (a b : α) (l : List (κ × α)) (h : j < k) :
    insertEntry k a ((j, b) :: l) = (j, b) :: insertEntry k a l := by
  have hne : k ≠ j := by
    rintro rfl
    exact irrefl k h
  rw [insertEntry, if_neg (asymm h), if_neg hne]

theorem insertEntry_comm_of_lt (a b : α) (l : List (κ × α)) (hkj : k < j) :
    insertEntry j b (insertEntry k a l) = insertEntry k a (insertEntry j b l) := by
  induction l with
  | nil =>
    rw [insertEntry, insertEntry, insertEntry_of_gt b a [] hkj, insertEntry_of_lt a b [] hkj, insertEntry]
  | cons e l ih =>
    obtain ⟨i, c⟩ := e
    rcases trichotomous_of (· < ·) i k with hik | rfl | hki
    · have hij : i < j := IsTrans.trans _ _ _ hik hkj
      rw [insertEntry_of_gt a c l hik, insertEntry_of_gt b c _ hij, insertEntry_of_gt b c l hij,
        insertEntry_of_gt a c _ hik, ih]
    · rw [insertEntry_self, insertEntry_of_gt b a l hkj, insertEntry_of_gt b c l hkj, insertEntry_self]
    · rw [insertEntry_of_lt a c l hki, insertEntry_of_gt b a _ hkj]
      -- Whatever comes first after `j` is inserted, `k` goes before it.
      rcases trichotomous_of (· < ·) i j with hij | rfl | hji
      · rw [insertEntry_of_gt b c l hij, insertEntry_of_lt a c _ hki]
      · rw [insertEntry_self, insertEntry_of_lt a b l hkj]
      · rw [insertEntry_of_lt b c l hji, insertEntry_of_lt a b _ hkj]

/-- Insertions can be made in any order, unless they are under one key. -/
theorem insert_comm (t : Table κ α) {a b : α} (h : k = j → a = b) :
    (t.insert k a).insert j b = (t.insert j b).insert k a := by
  rcases trichotomous_of (· < ·) k j with hkj | rfl | hjk
  · exact congrArg Table.mk (insertEntry_comm_of_lt a b t.entries hkj)
  · rw [h rfl]
  · exact congrArg Table.mk (insertEntry_comm_of_lt b a t.entries hjk).symm

end Insertion

theorem pairwise_insertEntry {l : List (κ × α)} (hl : (l.map (·.1)).Pairwise (· < ·)) (k : κ) (a : α) :
    ((insertEntry k a l).map (·.1)).Pairwise (· < ·) := by
  induction l with
  | nil => exact List.pairwise_singleton _ _
  | cons e l ih =>
    obtain ⟨j, b⟩ := e
    have hl' := List.pairwise_cons.1 (List.map_cons ▸ hl)
    rcases trichotomous_of (· < ·) k j with hkj | rfl | hjk
    · rw [insertEntry_of_lt a b l hkj]
      refine List.pairwise_cons.2 ⟨fun i hi => ?_, hl⟩
      rcases List.mem_cons.1 hi with rfl | hi
      · exact hkj
      · exact IsTrans.trans _ _ _ hkj (hl'.1 i hi)
    · rw [insertEntry_self]
      exact hl
    · rw [insertEntry_of_gt a b l hjk]
      refine List.pairwise_cons.2 ⟨fun i hi => ?_, ih hl'.2⟩
      rcases (mem_keys_insert ⟨l⟩ k i a).1 hi with rfl | hi
      · exact hjk
      · exact hl'.1 i hi

/-- Insertion keeps the order. -/
theorem Ordered.insert {t : Table κ α} (ht : t.Ordered) (k : κ) (a : α) : (t.insert k a).Ordered :=
  pairwise_insertEntry ht k a

theorem insertEntry_of_lookup {l : List (κ × α)} (hl : (l.map (·.1)).Pairwise (· < ·)) {k : κ} {a : α}
    (h : lookup k l = some a) : insertEntry k a l = l := by
  induction l with
  | nil => cases h
  | cons e l ih =>
    obtain ⟨j, b⟩ := e
    obtain ⟨hfirst, hl'⟩ := List.pairwise_cons.1 (List.map_cons ▸ hl)
    rw [lookup] at h
    split at h
    · next hkj =>
      cases h
      rw [hkj, insertEntry_self]
    · have hjk : j < k := hfirst k (List.mem_map.2 ⟨_, mem_of_lookup h, rfl⟩)
      rw [insertEntry_of_gt a b l hjk, ih hl' h]

/-- Inserting what is there changes nothing. -/
theorem Ordered.insert_of_find? {t : Table κ α} (ht : t.Ordered) {k : κ} {a : α}
    (h : t.find? k = some a) : t.insert k a = t :=
  congrArg Table.mk (insertEntry_of_lookup ht h)

theorem map_insertEntry_of_last {k : κ} (a : α) {l : List (κ × α)} (hl : ∀ j ∈ l.map (·.1), j < k) :
    (insertEntry k a l).map (·.1) = l.map (·.1) ++ [k] := by
  induction l with
  | nil => rfl
  | cons e l ih =>
    obtain ⟨j, b⟩ := e
    rw [insertEntry_of_gt a b l (hl j List.mem_cons_self), List.map_cons, List.map_cons,
      List.cons_append, ih fun i hi => hl i (List.mem_cons_of_mem _ hi)]

/-- A key behind all others becomes the last one. -/
theorem keys_insert_of_last {t : Table κ α} {k : κ} (a : α) (h : ∀ j ∈ t.keys, j < k) :
    (t.insert k a).keys = t.keys ++ [k] :=
  map_insertEntry_of_last a h

end Table

end GraphReplay
