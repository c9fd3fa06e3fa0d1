import GraphReplay.Proofs.Nearest
import GraphReplay.Word
import Mathlib.Data.Rat.Cast.Order
import Mathlib.Order.Bounds.Defs
import Mathlib.Tactic.Linarith

/-!
# What the text of a byte count says

The text of a count can be read without knowing how it was written: it is a decimal
number with the name of a unit behind it (`quantity?`). What is read is the count
itself if it is below 1024. If not, it is near to it, since there are two roundings on
the way, to 53 binary digits and then to tenths of a unit.

The order of counts is kept all the same. Each rounding keeps it, and where the unit
changes, the smaller count was rounded up to one of the next unit at most, and the
larger one is at least one of these.

* `quantity?_whole`, `quantity?_tenths`: what was written is what is read;
* `reached`: the units that a count reaches, of which the last one is chosen
  (`exists_chooseUnit_eq`), before the rounding or after it (`reached_toSignificant`);
* `abs_tenths_sub_le`: tenths are half a tenth off at most;
* `quantity?_render_mono`: the text of a larger count stands for no less;
* `render_faithful`: all of this together.
-/

namespace GraphReplay.ByteCount

/-! ## Reading -/

/-- The bytes of the unit of this name. -/
def unitBytes? (name : String) : Option Nat := (("B" :: units).idxOf? name).map (1024 ^ ·)

/-- The bytes that a text stands for: a decimal number, with digits behind a point or without, and
    the name of a unit. -/
def quantity? (text : String) : Option ℚ :=
  let whole := text.toList.takeWhile Char.isDigit
  match text.toList.dropWhile Char.isDigit with
  | '.' :: rest =>
    let fraction := rest.takeWhile Char.isDigit
    (unitBytes? (String.ofList (rest.dropWhile Char.isDigit))).map fun (bytes : Nat) =>
      (Nat.ofDigitChars 10 whole 0 + Nat.ofDigitChars 10 fraction 0 / 10 ^ fraction.length) *
        (bytes : ℚ)
  | name => (unitBytes? (String.ofList name)).map fun (bytes : Nat) =>
      Nat.ofDigitChars 10 whole 0 * (bytes : ℚ)

/-- The name of a unit begins with no digit and no point. -/
theorem exists_toList_of_unitBytes? {name : String} {bytes : Nat}
    (h : unitBytes? name = some bytes) :
    ∃ c cs, name.toList = c :: cs ∧ c.isDigit = false ∧ c ≠ '.' := by
  have hmem : name ∈ ["B", "KiB", "MiB", "GiB", "TiB"] := by
    by_contra hmem
    rw [unitBytes?, units, List.idxOf?_eq_none_iff.2 hmem] at h
    cases h
  simp only [List.mem_cons, List.not_mem_nil, or_false] at hmem
  rcases hmem with rfl | rfl | rfl | rfl | rfl
  all_goals exact ⟨_, _, rfl, by decide, by decide⟩

/-- The digits of a number end where something else begins. -/
theorem takeWhile_digits (n : Nat) {c : Char} (hc : c.isDigit = false) (cs : List Char) :
    (Nat.toDigits 10 n ++ c :: cs).takeWhile Char.isDigit = Nat.toDigits 10 n ∧
      (Nat.toDigits 10 n ++ c :: cs).dropWhile Char.isDigit = c :: cs := by
  have hdigits : ∀ d ∈ Nat.toDigits 10 n, d.isDigit := fun d hd =>
    Nat.isDigit_of_mem_toDigits (by decide) (by decide) hd
  rw [List.takeWhile_append_of_pos hdigits, List.dropWhile_append_of_pos hdigits,
    List.takeWhile_cons_of_neg (by simp [hc]), List.dropWhile_cons_of_neg (by simp [hc]),
    List.append_nil]
  exact ⟨rfl, rfl⟩

theorem toList_toString_append (n : Nat) (text : String) :
    (toString n ++ text).toList = Nat.toDigits 10 n ++ text.toList := by
  rw [String.toList_append, Nat.toString_eq_repr, Nat.toList_repr]

/-- A whole number of units is read as it was written. -/
theorem quantity?_whole (n : Nat) {name : String} {bytes : Nat} (h : unitBytes? name = some bytes) :
    quantity? (toString n ++ name) = some ((n : ℚ) * bytes) := by
  obtain ⟨c, cs, hname, hdigit, hpoint⟩ := exists_toList_of_unitBytes? h
  have hrest : String.ofList (c :: cs) = name := by rw [← hname, String.ofList_toList]
  obtain ⟨hwhole, hdrop⟩ := takeWhile_digits n hdigit cs
  rw [quantity?, toList_toString_append, hname, hwhole, hdrop]
  dsimp only
  split
  · next heq => exact absurd (List.cons.inj heq).1 hpoint
  · rw [hrest, h, Nat.ofDigitChars_ten_toDigits, Option.map_some]

/-- So is a number of tenths. -/
theorem quantity?_tenths (t : Nat) {name : String} {bytes : Nat}
    (h : unitBytes? name = some bytes) :
    quantity? (renderTenths t ++ name) = some ((t : ℚ) / 10 * bytes) := by
  obtain ⟨c, cs, hname, hdigit, -⟩ := exists_toList_of_unitBytes? h
  have hrest : String.ofList (c :: cs) = name := by rw [← hname, String.ofList_toList]
  obtain ⟨hwhole, hdrop⟩ := takeWhile_digits (t / 10) (c := '.') (by decide)
    (Nat.toDigits 10 (t % 10) ++ c :: cs)
  obtain ⟨hfraction, hunit⟩ := takeWhile_digits (t % 10) hdigit cs
  have htext : (renderTenths t ++ name).toList =
      Nat.toDigits 10 (t / 10) ++ '.' :: (Nat.toDigits 10 (t % 10) ++ c :: cs) := by
    rw [renderTenths, String.append_assoc, String.append_assoc, toList_toString_append,
      String.toList_append, toList_toString_append, hname]
    rfl
  have hlength : (Nat.toDigits 10 (t % 10)).length = 1 := by
    rw [Nat.toDigits_of_lt_base (Nat.mod_lt t (by decide))]
    rfl
  have hten : ((t / 10 : Nat) : ℚ) + (t % 10 : Nat) / 10 = t / 10 := by
    have hdm : ((10 * (t / 10) + t % 10 : Nat) : ℚ) = t := congrArg Nat.cast (Nat.div_add_mod t 10)
    push_cast at hdm
    linarith
  rw [quantity?, htext, hwhole, hdrop]
  dsimp only
  split
  · next rest heq =>
    cases heq
    rw [hfraction, hunit, hrest, h, hlength, pow_one, Nat.ofDigitChars_ten_toDigits,
      Nat.ofDigitChars_ten_toDigits, hten, Option.map_some]
  · next hne => exact absurd rfl (hne _)

/-! ## Units -/

section Units

variable {n value bytes a b j k c : Nat} {names : List String}

/-- The units that a count reaches. -/
def reached (n : Nat) : Set Nat := {k | 1 ≤ k ∧ k ≤ 4 ∧ 1024 ^ k ≤ n}

/-- The unit that is chosen is the last one that the value reaches. -/
theorem exists_chooseUnit_eq (hne : names ≠ []) (hpos : 0 < bytes) (h : bytes ≤ value) :
    ∃ j, ∃ hj : j < names.length, chooseUnit value bytes names = (names[j], bytes * 1024 ^ j) ∧
      IsGreatest {i | i < names.length ∧ bytes * 1024 ^ i ≤ value} j := by
  fun_induction chooseUnit value bytes names with
  | case1 bytes => exact absurd rfl hne
  | case2 bytes name =>
    exact ⟨0, Nat.one_pos, by simp, ⟨Nat.one_pos, by simpa using h⟩,
      fun i hi => Nat.le_of_lt_succ hi.1⟩
  | case3 bytes name names hne' hlt =>
    refine ⟨0, Nat.succ_pos _, by simp, ⟨Nat.succ_pos _, by simpa using h⟩, fun i hi => ?_⟩
    -- A later unit would be one that the value does not reach.
    by_contra hi'
    have hle : bytes * 1024 ^ 1 ≤ bytes * 1024 ^ i :=
      Nat.mul_le_mul_left _ (Nat.pow_le_pow_right (by decide) (by omega))
    have := hi.2
    omega
  | case4 bytes name names hne' hlt ih =>
    obtain ⟨j, hj, heq, ⟨-, hreach⟩, hlast⟩ :=
      ih (by simpa using hne') (by omega) (Nat.not_lt.1 hlt)
    have hpow : ∀ i, bytes * 1024 * 1024 ^ i = bytes * 1024 ^ (i + 1) := fun i => by
      rw [Nat.pow_succ, Nat.mul_assoc, Nat.mul_comm 1024]
    refine ⟨j + 1, Nat.succ_lt_succ hj, by rw [heq, hpow]; rfl,
      ⟨Nat.succ_lt_succ hj, hpow j ▸ hreach⟩, fun i hi => ?_⟩
    match i with
    | 0 => exact Nat.zero_le _
    | i + 1 => exact Nat.succ_le_succ (hlast ⟨Nat.lt_of_succ_lt_succ hi.1, (hpow i).symm ▸ hi.2⟩)

/-- Rounding to 53 digits does not change which units are reached. -/
theorem reached_toSignificant (n : Nat) : reached (toSignificant n) = reached n := by
  ext k
  refine and_congr_right fun _ => and_congr_right fun hk => ⟨fun h => ?_, fun h => ?_⟩
  · -- Counts below a unit are small enough to stay as they are.
    by_contra hlt
    have hunit : 1024 ^ k ≤ 1024 ^ 4 := Nat.pow_le_pow_right (by decide) hk
    rw [(significant_of_lt (n := n) (by omega)).toSignificant_eq] at h
    exact hlt h
  · have hunit : Significant (1024 ^ k) := ⟨1, 10 * k, by decide, by rw [Nat.pow_mul, Nat.one_mul]⟩
    exact hunit.toSignificant_eq ▸ toSignificant_mono h

/-- A count of 1024 or more is written in tenths of the last unit that it reaches. -/
theorem exists_render_eq (h : 1024 ≤ n) :
    ∃ k name, IsGreatest (reached n) k ∧ unitBytes? name = some (1024 ^ k) ∧
      render n = renderTenths (tenths (toSignificant n) (1024 ^ k)) ++ name := by
  have hreach : 1024 ≤ toSignificant n := by
    have hone : 1 ∈ reached (toSignificant n) := by
      rw [reached_toSignificant]
      exact ⟨le_rfl, by decide, h⟩
    exact hone.2.2
  have hunits : units ≠ [] := by decide
  obtain ⟨j, hj, heq, ⟨-, hle⟩, hlast⟩ := exists_chooseUnit_eq hunits (by decide) hreach
  have hpow : ∀ i, 1024 * 1024 ^ i = 1024 ^ (i + 1) := fun i => (Nat.pow_succ').symm
  refine ⟨j + 1, units[j], ⟨?_, fun i hi => ?_⟩, ?_, ?_⟩
  · rw [← reached_toSignificant]
    exact ⟨Nat.succ_pos _, hj, hpow j ▸ hle⟩
  · rw [← reached_toSignificant] at hi
    obtain ⟨hpos, hfour, hi⟩ := hi
    obtain ⟨i, rfl⟩ := Nat.exists_eq_add_of_le' hpos
    exact Nat.succ_le_succ (hlast ⟨hfour, (hpow i).symm ▸ hi⟩)
  · match j with
    | 0 | 1 | 2 | 3 => rfl
  · rw [render, if_neg (Nat.not_lt.2 h)]
    dsimp only
    rw [heq, hpow]

/-! ## Tenths -/

/-- In tenths of a unit, a value is half a tenth off at most. -/
theorem abs_tenths_sub_le (value : Nat) (hpos : 0 < bytes) :
    |(tenths value bytes / 10 * bytes : ℚ) - value| ≤ 1 / 20 * bytes := by
  obtain ⟨hlow, hhigh⟩ := divNearest_bounds (a := 10 * value) hpos
  rw [← tenths] at hlow hhigh
  have hlow' : (2 * (10 * value) : ℚ) ≤ 2 * (bytes * tenths value bytes) + bytes := by
    exact_mod_cast hlow
  have hhigh' : (2 * (bytes * tenths value bytes) : ℚ) ≤ 2 * (10 * value) + bytes := by
    exact_mod_cast hhigh
  rw [abs_le]
  constructor <;> linarith

theorem tenths_le (hpos : 0 < bytes) (h : value ≤ bytes * c) : tenths value bytes ≤ 10 * c := by
  refine divNearest_le hpos ?_
  rw [Nat.mul_left_comm]
  exact Nat.mul_le_mul_left 10 h

theorem le_tenths (hpos : 0 < bytes) (h : bytes * c ≤ value) : 10 * c ≤ tenths value bytes := by
  refine le_divNearest hpos ?_
  rw [Nat.mul_left_comm]
  exact Nat.mul_le_mul_left 10 h

/-- What is written of a larger value is larger, also where the unit changes. -/
theorem tenths_mul_mono (h : a ≤ b) (hj : IsGreatest (reached a) j)
    (hk : IsGreatest (reached b) k) :
    tenths a (1024 ^ j) * 1024 ^ j ≤ tenths b (1024 ^ k) * 1024 ^ k := by
  have hpos : ∀ i, 0 < 1024 ^ i := fun i => Nat.pow_pos (by decide)
  obtain ⟨⟨hone, hfour, hreach⟩, hlast⟩ := hj
  rcases Nat.eq_or_lt_of_le (hk.2 ⟨hone, hfour, Nat.le_trans hreach h⟩) with rfl | hlt
  · exact Nat.mul_le_mul_right _ (divNearest_mono (hpos j) (Nat.mul_le_mul_left 10 h))
  · -- The smaller value does not reach the unit after its own, and what is written of it is one of
    -- these at most.
    have hbelow : a ≤ 1024 ^ j * 1024 := by
      by_contra hover
      refine absurd (hlast ⟨Nat.succ_pos j, Nat.le_trans hlt hk.1.2.1, ?_⟩) (Nat.not_succ_le_self j)
      rw [Nat.pow_succ]
      omega
    calc
      tenths a (1024 ^ j) * 1024 ^ j ≤ 10 * 1024 * 1024 ^ j :=
        Nat.mul_le_mul_right _ (tenths_le (hpos j) hbelow)
      _ = 10 * 1024 ^ (j + 1) := by rw [Nat.pow_succ', Nat.mul_assoc]
      _ ≤ 10 * 1 * 1024 ^ k := Nat.mul_le_mul_left 10 (Nat.pow_le_pow_right (by decide) hlt)
      _ ≤ tenths b (1024 ^ k) * 1024 ^ k :=
        Nat.mul_le_mul_right _ (le_tenths (hpos k) (by rw [Nat.mul_one]; exact hk.1.2.2))

/-- A count below 1024 is written in full. -/
theorem render_of_lt (h : n < 1024) : render n = toString n ++ "B" := if_pos h

theorem quantity?_render_of_lt (h : n < 1024) : quantity? (render n) = some (n : ℚ) := by
  have hunit : unitBytes? "B" = some 1 := rfl
  rw [render_of_lt h, quantity?_whole n hunit, Nat.cast_one, mul_one]

theorem quantity?_render (h : 1024 ≤ n) :
    ∃ k, IsGreatest (reached (toSignificant n)) k ∧ quantity? (render n) =
      some ((tenths (toSignificant n) (1024 ^ k) * 1024 ^ k : Nat) / 10 : ℚ) := by
  obtain ⟨k, name, hk, hname, htext⟩ := exists_render_eq h
  refine ⟨k, reached_toSignificant n ▸ hk, ?_⟩
  rw [htext, quantity?_tenths _ hname, Nat.cast_mul, div_mul_eq_mul_div]

/-- The text of a larger count stands for no less. -/
theorem quantity?_render_mono (h : a ≤ b) :
    ∃ p q, quantity? (render a) = some p ∧ quantity? (render b) = some q ∧ p ≤ q := by
  rcases Nat.lt_or_ge b 1024 with hb | hb
  · exact ⟨_, _, quantity?_render_of_lt (Nat.lt_of_le_of_lt h hb), quantity?_render_of_lt hb,
      Nat.cast_le.2 h⟩
  obtain ⟨k, hk, hq⟩ := quantity?_render hb
  rcases Nat.lt_or_ge a 1024 with ha | ha
  · -- The larger count is at least one of its unit, and that is more than the smaller one.
    have hunit : 1024 ^ 1 ≤ 1024 ^ k := Nat.pow_le_pow_right (by decide) hk.1.1
    have htenths : 10 * 1 ≤ tenths (toSignificant b) (1024 ^ k) :=
      le_tenths (Nat.pow_pos (by decide)) (by rw [Nat.mul_one]; exact hk.1.2.2)
    have hle : a * 10 ≤ tenths (toSignificant b) (1024 ^ k) * 1024 ^ k :=
      calc
        a * 10 ≤ 10 * 1 * 1024 ^ k := by omega
        _ ≤ tenths (toSignificant b) (1024 ^ k) * 1024 ^ k := Nat.mul_le_mul_right _ htenths
    refine ⟨_, _, quantity?_render_of_lt ha, hq, ?_⟩
    rw [le_div_iff₀ (by norm_num)]
    exact_mod_cast hle
  · obtain ⟨j, hj, hp⟩ := quantity?_render ha
    have hle := tenths_mul_mono (toSignificant_mono h) hj hk
    refine ⟨_, _, hp, hq, ?_⟩
    rw [div_le_div_iff_of_pos_right (by norm_num)]
    exact Nat.cast_le.2 hle

/-- The text of a count says what the count is. Below 1024 it is written in full. From there on it
    is written in the last unit that it reaches, and half a tenth of a unit off at most from the
    number of 53 digits that it is rounded to first, which is the count itself below 2 ^ 53. The
    text of a larger count stands for no less. -/
theorem render_faithful :
    (∀ n < 1024, render n = toString n ++ "B" ∧ quantity? (render n) = some (n : ℚ)) ∧
    (∀ n, 1024 ≤ n → n < Word.limit → ∃ k t name x,
      IsGreatest {k | 1 ≤ k ∧ k ≤ 4 ∧ 1024 ^ k ≤ n} k ∧ unitBytes? name = some (1024 ^ k) ∧
      render n = renderTenths t ++ name ∧ quantity? (render n) = some (t / 10 * 1024 ^ k : ℚ) ∧
      RoundsTo n x ∧ (n < 2 ^ 53 → x = n) ∧ |(x : ℚ) - n| ≤ 1024 ∧
      |(t / 10 * 1024 ^ k : ℚ) - n| ≤ 1 / 20 * 1024 ^ k + |(x : ℚ) - n|) ∧
    ∀ a b, a ≤ b →
      ∃ p q, quantity? (render a) = some p ∧ quantity? (render b) = some q ∧ p ≤ q := by
  refine ⟨fun n hn => ⟨render_of_lt hn, quantity?_render_of_lt hn⟩, fun n hn hlimit => ?_,
    fun a b => quantity?_render_mono⟩
  obtain ⟨k, name, hk, hname, htext⟩ := exists_render_eq hn
  have hpos : 0 < 1024 ^ k := Nat.pow_pos (by decide)
  refine ⟨k, _, name, toSignificant n, hk, hname, htext, ?read, roundsTo_toSignificant n,
    fun h => (significant_of_lt h).toSignificant_eq, ?rounded, ?near⟩
  case read =>
    rw [htext, quantity?_tenths _ hname]
    norm_num
  case rounded =>
    have hle := abs_sub_toSignificant_le hlimit
    rw [abs_sub_comm]
    exact_mod_cast hle
  case near =>
    have htenths := abs_tenths_sub_le (toSignificant n) hpos
    have htriangle := abs_sub_le (tenths (toSignificant n) (1024 ^ k) / 10 * 1024 ^ k : ℚ)
      (toSignificant n) n
    push_cast at htenths
    linarith

/-- The last count before a unit rounds up to it, and its text stands for as much. The largest
    word is rounded up before it is written. -/
theorem render_faithful_limits :
    render 1048575 = "1024.0KiB" ∧ render 1048576 = "1.0MiB" ∧
      (∃ p q, quantity? "1024.0KiB" = some p ∧ quantity? "1.0MiB" = some q ∧ p ≤ q) ∧
      quantity? (render 1023) = some 1023 ∧
      ∃ t name, render (Word.limit - 1) = renderTenths t ++ name ∧
        |(t / 10 * 1024 ^ 4 : ℚ) - (Word.limit - 1 : Nat)| ≤ 1 / 20 * 1024 ^ 4 + 1024 := by
  have hlow : render 1048575 = "1024.0KiB" := by decide +kernel
  have hhigh : render 1048576 = "1.0MiB" := by decide +kernel
  obtain ⟨hbytes, hunits, hmono⟩ := render_faithful
  have hle := hmono 1048575 1048576 (by decide)
  rw [hlow, hhigh] at hle
  obtain ⟨k, t, name, x, hk, -, htext, -, -, -, hx, hnear⟩ :=
    hunits (Word.limit - 1) (by decide) (by decide)
  obtain rfl : k = 4 := Nat.le_antisymm hk.1.2.1 (hk.2 ⟨by decide, le_rfl, by decide⟩)
  exact ⟨hlow, hhigh, hle, (hbytes 1023 (by decide)).2, t, name, htext,
    hnear.trans (by linarith)⟩

end Units

end GraphReplay.ByteCount
