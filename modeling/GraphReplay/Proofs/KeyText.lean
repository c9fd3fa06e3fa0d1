import GraphReplay.Key
import Mathlib.Data.List.Basic

/-!
# The text of a key

A name may be any text, also one that looks like the text of another key, so what
stands between the name and the batch size (`mark`) can stand anywhere in the name
too. But it cannot stand among digits. So the last mark of a text is the one that was
written between the two parts, and splitting the text there gives both of them back.

* `LastSplit`: the parts of a text around the last mark. There is one way at most to
  split it like this (`LastSplit.unique`), and `splitLast?` finds it
  (`splitLast?_eq_some_iff`);
* `LastSplit.of_notMem`: nothing behind the first character of the last mark is such a
  character again;
* `Key.render_identifies`: the text of a key is that of no other key, and is read back.
-/

namespace GraphReplay

/-! ## The last mark -/

namespace Text

/-- A text is `before`, `mark` and `after` in a row, and the mark stands nowhere later in it. -/
structure LastSplit (mark s before after : List Char) : Prop where
  eq : s = before ++ mark ++ after
  last : ∀ before' after', s = before' ++ mark ++ after' → before'.length ≤ before.length

/-- The parts of a text before and behind the last mark. -/
def splitLast? (mark : List Char) : List Char → Option (List Char × List Char)
  | [] => none
  | c :: s =>
    match splitLast? mark s with
    | some (before, after) => some (c :: before, after)
    | none => (mark.isPrefixOf? (c :: s)).map ([], ·)

variable {mark s before after before' after' : List Char}

theorem LastSplit.unique (h : LastSplit mark s before after) (h' : LastSplit mark s before' after') :
    before = before' ∧ after = after' := by
  have hlength : before.length = before'.length :=
    Nat.le_antisymm (h'.last _ _ h.eq) (h.last _ _ h'.eq)
  have heq := h.eq.symm.trans h'.eq
  rw [List.append_assoc, List.append_assoc] at heq
  obtain ⟨rfl, hrest⟩ := List.append_inj heq hlength
  exact ⟨rfl, List.append_cancel_left hrest⟩

/-- What is put in front of a text does not come behind its last mark. -/
theorem LastSplit.cons (h : LastSplit mark s before after) (c : Char) :
    LastSplit mark (c :: s) (c :: before) after where
  eq := by rw [h.eq]; rfl
  last
    | [], _, _ => Nat.zero_le _
    | _ :: b, a, heq => Nat.succ_le_succ (h.last b a (List.cons.inj heq).2)

/-- Where no split is found, there is no mark. -/
theorem ne_of_splitLast?_eq_none (hmark : mark ≠ []) (h : splitLast? mark s = none)
    (before after : List Char) : s ≠ before ++ mark ++ after := by
  induction s generalizing before with
  | nil => simp [hmark]
  | cons c s ih =>
    rw [splitLast?] at h
    cases hs : splitLast? mark s with
    | some parts => simp [hs] at h
    | none =>
      simp only [hs, Option.map_eq_none_iff] at h
      cases before with
      | nil =>
        intro heq
        have hbegin : mark ++ after = c :: s := heq.symm
        rw [List.isPrefixOf?_eq_some_iff_append_eq.2 hbegin] at h
        cases h
      | cons b before =>
        intro heq
        exact ih hs before (List.cons.inj heq).2

theorem splitLast?_eq_some_iff (hmark : mark ≠ []) :
    splitLast? mark s = some (before, after) ↔ LastSplit mark s before after := by
  induction s generalizing before after with
  | nil =>
    refine iff_of_false nofun fun h => ?_
    simpa [hmark] using h.eq
  | cons c s ih =>
    rw [splitLast?]
    cases hs : splitLast? mark s with
    | some parts =>
      obtain ⟨b, a⟩ := parts
      have hsplit := (ih.1 hs).cons c
      constructor
      · rintro ⟨⟩
        exact hsplit
      · intro h
        obtain ⟨rfl, rfl⟩ := hsplit.unique h
        rfl
    | none =>
      -- The only mark there can be stands at the begin of the text.
      have hnone := ne_of_splitLast?_eq_none hmark hs
      simp only [Option.map_eq_some_iff, List.isPrefixOf?_eq_some_iff_append_eq]
      constructor
      · rintro ⟨a, heq, ⟨⟩⟩
        refine ⟨heq.symm, fun b a' heq' => ?_⟩
        cases b with
        | nil => exact Nat.le_refl _
        | cons d b => exact absurd (List.cons.inj heq').2 (hnone b a')
      · intro h
        cases before with
        | nil => exact ⟨after, h.eq.symm, rfl⟩
        | cons d b => exact absurd (List.cons.inj h.eq).2 (hnone b after)

/-- A mark is the last one if its first character does not come again. -/
theorem LastSplit.of_notMem {c : Char} {rest : List Char} (hrest : c ∉ rest) (hafter : c ∉ after) :
    LastSplit (c :: rest) (before ++ (c :: rest) ++ after) before after where
  eq := rfl
  last b a heq := by
    rw [List.append_assoc, List.append_assoc] at heq
    rcases List.append_eq_append_iff.1 heq with ⟨between, rfl, hlater⟩ | ⟨between, rfl, -⟩
    · cases between with
      | nil => simp
      | cons d between =>
        have hbehind : rest ++ after = between ++ (c :: rest ++ a) := (List.cons.inj hlater).2
        have hmem : c ∈ rest ++ after := by
          rw [hbehind]
          simp
        exact absurd hmem (by simp [hrest, hafter])
    · simp

/-- The number of which a text is the decimal form. -/
def number? (s : List Char) : Option Nat :=
  let n := Nat.ofDigitChars 10 s 0
  if Nat.toDigits 10 n = s then some n else none

theorem number?_eq_some_iff {n : Nat} : number? s = some n ↔ Nat.toDigits 10 n = s := by
  rw [number?]
  constructor
  · intro h
    split at h
    · next hs =>
      cases h
      exact hs
    · cases h
  · rintro rfl
    simp

end Text

/-! ## Keys -/

namespace Key

/-- What stands between the name and the batch size. -/
def mark : List Char := ['@', 'b', 's']

/-- Read a key: the name is what stands before the last mark, the batch size what stands behind. -/
def read? (text : String) : Option Key := do
  let (name, digits) ← Text.splitLast? mark text.toList
  let batchSize ← Text.number? digits
  return ⟨String.ofList name, batchSize⟩

theorem toList_render (k : Key) :
    k.render.toList = k.name.toList ++ mark ++ Nat.toDigits 10 k.batchSize := by
  rw [render, String.toList_append, String.toList_append, Nat.toString_eq_repr, Nat.toList_repr]
  rfl

/-- A mark in the name is not the last one, since the one behind the name comes later. -/
theorem lastSplit_render (k : Key) :
    Text.LastSplit mark k.render.toList k.name.toList (Nat.toDigits 10 k.batchSize) := by
  rw [toList_render]
  refine .of_notMem (by decide) fun hmem => ?_
  exact absurd (Nat.isDigit_of_mem_toDigits (by decide) (by decide) hmem) (by decide)

theorem read?_eq_some_iff {text : String} {k : Key} : read? text = some k ↔ k.render = text := by
  have hmark : mark ≠ [] := by decide
  constructor
  · intro h
    simp only [read?, Option.bind_eq_bind, Option.bind_eq_some_iff, Prod.exists,
      Text.splitLast?_eq_some_iff hmark, Text.number?_eq_some_iff] at h
    obtain ⟨name, digits, hsplit, n, rfl, hk⟩ := h
    cases hk
    rw [← String.toList_inj, toList_render, hsplit.eq, String.toList_ofList]
  · rintro rfl
    have hsplit := (Text.splitLast?_eq_some_iff hmark).2 k.lastSplit_render
    simp [read?, hsplit, Text.number?_eq_some_iff.2 (rfl : Nat.toDigits 10 k.batchSize = _)]

/-- The text of a key identifies the key, whatever its name is. The last mark in the text is the one
    between the name and the batch size: what stands before it is the name, and what stands behind
    it is the batch size in decimal. So two keys with the same text are the same, and a text is
    read as the key that it is the text of, and as none if there is no such key. -/
theorem render_identifies :
    Function.Injective render ∧
    (∀ (k : Key) (before after : List Char),
      Text.LastSplit mark k.render.toList before after ↔
        before = k.name.toList ∧ after = Nat.toDigits 10 k.batchSize) ∧
    (∀ k : Key, Text.splitLast? mark k.render.toList =
      some (k.name.toList, Nat.toDigits 10 k.batchSize)) ∧
    ∀ (text : String) (k : Key), read? text = some k ↔ k.render = text := by
  refine ⟨fun j k h => ?_, fun k before after => ⟨fun h => ?_, ?_⟩, fun k => ?_,
    fun text k => read?_eq_some_iff⟩
  · have hj := read?_eq_some_iff.2 h
    have hk := read?_eq_some_iff.2 (rfl : k.render = k.render)
    exact Option.some.inj (hj.symm.trans hk)
  · exact h.unique k.lastSplit_render
  · rintro ⟨rfl, rfl⟩
    exact k.lastSplit_render
  · exact (Text.splitLast?_eq_some_iff (by decide)).2 k.lastSplit_render

/-- A name that ends like the text of a key. -/
example : read? "a@bs1@bs20" = some ⟨"a@bs1", 20⟩ := by cbv

end Key

end GraphReplay
