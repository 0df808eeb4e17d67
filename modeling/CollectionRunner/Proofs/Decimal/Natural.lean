import CollectionRunner.Proofs.Decimal.Value
import CollectionRunner.Proofs.Decimal.Whole

namespace CollectionRunner.Decimal

variable (around : Neighbours)

/-- The number that digits stand for. -/
def Digits.value (d : Digits) : ℚ := d.digits * 10 ^ (d.point - (Nat.toDigits 10 d.digits).length)

theorem Digits.Whole.value_eq {d : Digits} (h : d.Whole) : d.value = d.whole := by
  have places : d.point - (Nat.toDigits 10 d.digits).length =
      (d.point.toNat - (Nat.toDigits 10 d.digits).length : Nat) := by
    have := h.fits
    omega
  unfold value whole
  rw [places, zpow_natCast]
  norm_cast

theorem value_pointed {point : Int} {count n : Nat} (hc : 0 < count) (least : 10 ^ (count - 1) ≤ n)
    (most : n ≤ 10 ^ count) : (pointed point count n).value = n * 10 ^ (point - count) := by
  unfold pointed Digits.value
  split
  · rename_i ten
    have one : (Nat.toDigits 10 1).length = 1 := by decide
    rw [one, ten]
    push_cast
    rw [pow_mul_zpow (by norm_num) (add_sub_cancel (count : Int) point), one_mul,
      add_sub_cancel_right]
  · rename_i other
    rw [length_toDigits hc least (lt_of_le_of_ne most other)]

theorem pow_le_of_length_toDigits {n : Nat} (hn : 0 < n) :
    10 ^ ((Nat.toDigits 10 n).length - 1) ≤ n := by
  by_contra fewer
  by_cases one : (Nat.toDigits 10 n).length - 1 = 0
  · rw [one] at fewer
    exact fewer hn
  · have := (Nat.length_toDigits_le_iff (by decide) (Nat.pos_of_ne_zero one)).2 (not_le.1 fewer)
    omega

/-- Digits of which none stands behind the point are a number of as many places. -/
theorem Digits.Whole.least {d : Digits} (h : d.Whole) : 10 ^ (d.point.toNat - 1) ≤ d.whole := by
  have some_digit := List.length_pos_of_ne_nil (Nat.toDigits_ne_nil (n := d.digits) (b := 10))
  have fits := h.fits
  calc 10 ^ (d.point.toNat - 1)
      = 10 ^ ((Nat.toDigits 10 d.digits).length - 1) *
          10 ^ (d.point.toNat - (Nat.toDigits 10 d.digits).length) := by
        rw [←Nat.pow_add]
        congr 1
        omega
    _ ≤ d.whole := Nat.mul_le_mul_right _ (pow_le_of_length_toDigits h.positive)

theorem toDigits_mul_pow {n : Nat} (hn : 0 < n) (k : Nat) :
    Nat.toDigits 10 (n * 10 ^ k) = Nat.toDigits 10 n ++ List.replicate k '0' := by
  induction k with
  | zero => simp
  | succ k ih =>
    have next : n * 10 ^ (k + 1) = 10 * (n * 10 ^ k) + 0 := by
      rw [Nat.pow_succ]
      ring
    have positive : 0 < n * 10 ^ k := by positivity
    rw [next, ←Nat.toDigits_append_toDigits (by decide) positive (by decide), ih,
      List.append_assoc, List.replicate_succ']
    rfl

theorem positionalText_whole {d : Digits} (h : d.Whole) :
    positionalText (Nat.toDigits 10 d.digits) d.point "" = toString d.whole := by
  have some_digit := List.length_pos_of_ne_nil (Nat.toDigits_ne_nil (n := d.digits) (b := 10))
  have fits := h.fits
  have right : ¬ d.point ≤ 0 := by omega
  have text : toString d.whole = String.ofList (Nat.toDigits 10 d.whole) := by
    rw [Nat.toString_eq_repr, Nat.repr_eq_ofList_toDigits]
  unfold positionalText zeros
  rw [if_neg right, if_pos fits, text, Digits.whole, toDigits_mul_pow h.positive,
    String.ofList_append, String.append_empty]

/-- Digits of which none stands behind the point are written as the number, unless there are too
many places. -/
theorem digitsText_whole {style : Style} (bare : style.wholeTail = "") {d : Digits} (h : d.Whole)
    (within : ∀ ends ∈ style.positional, ends.1 < d.point ∧ d.point ≤ ends.2) :
    style.digitsText d = toString d.whole := by
  unfold Style.digitsText
  rw [bare]
  dsimp only
  split
  · exact positionalText_whole h
  · rename_i least most ends
    obtain ⟨above, below⟩ := within (least, most) ends
    rw [if_pos (by simp [above, below])]
    exact positionalText_whole h

/-- A text tells that its number is no whole one, or that it is too large to be written in full. -/
def Marked (s : String) : Prop := '.' ∈ s.toList ∨ 'e' ∈ s.toList

theorem marked_scientificText (digits : List Char) (point : Int) (powerSign : String) :
    Marked (scientificText digits point powerSign) := by
  right
  unfold scientificText
  simp

theorem marked_positionalText {digits : List Char} {point : Int} (tail : String)
    (behind : ¬ (0 < point ∧ digits.length ≤ point)) :
    Marked (positionalText digits point tail) := by
  left
  unfold positionalText
  split
  · simp
  · rename_i right
    rw [if_neg fun fits => behind ⟨not_le.1 right, fits⟩]
    simp

/-- Digits behind the point are marked. -/
theorem marked_digitsText (style : Style) {d : Digits}
    (behind : ¬ (0 < d.point ∧ (Nat.toDigits 10 d.digits).length ≤ d.point)) :
    Marked (style.digitsText d) := by
  unfold Style.digitsText
  dsimp only
  split
  · exact marked_positionalText _ behind
  · split
    · exact marked_positionalText _ behind
    · exact marked_scientificText ..

/-- A text that is not marked has all digits of a whole number. -/
theorem whole_or_marked {style : Style} (bare : style.wholeTail = "") {d : Digits}
    (positive : 0 < d.digits) :
    d.Whole ∧ style.digitsText d = toString d.whole ∨ Marked (style.digitsText d) := by
  by_cases behind : 0 < d.point ∧ (Nat.toDigits 10 d.digits).length ≤ d.point
  · have whole : d.Whole := ⟨positive, behind.2⟩
    unfold Style.digitsText
    rw [bare]
    dsimp only
    split
    · exact .inl ⟨whole, positionalText_whole whole⟩
    · split
      · exact .inl ⟨whole, positionalText_whole whole⟩
      · exact .inr (marked_scientificText ..)
  · exact .inr (marked_digitsText style behind)

namespace Binary64

variable {d : Binary64}

theorem Full.decimalPoint_pos (full : Full d) (large : 1 ≤ d.magnitude) :
    0 < decimalPoint d.significand d.scale := by
  have lead := leads_decimalPoint full.normal full.least full.most
  by_contra before
  have small : (10 : ℚ) ^ decimalPoint d.significand d.scale ≤ 1 :=
    zpow_le_one_of_nonpos₀ (by norm_num) (not_lt.1 before)
  exact absurd (lead.most.trans_le small) (not_lt.2 large)

/-- The digits of a double read back as it. -/
theorem Full.readsBack (full : Full d) : 0 < (shortest around d).digits ∧
    ReadsBack d.significand d.scale (shortest around d).value := by
  have lead := leads_decimalPoint full.normal full.least full.most
  have hit : (gridPoint? around d.significand d.scale (decide (d.significand = 2 ^ 52))
      (decimalPoint d.significand d.scale) (1 + 16)).isSome = true :=
    gridPoint?_isSome full.normal lead.least
  obtain ⟨i, -, found⟩ := firstGrid_hit 17 1 16 (by decide) hit
  unfold shortest
  rw [full.binade]
  obtain ⟨n, least, most, digits, back⟩ := gridPoint?_eq_some lead (by omega) found
  rw [digits, value_pointed (by omega) least most]
  refine ⟨?_, back⟩
  unfold pointed
  split
  · exact Nat.one_pos
  · exact lt_of_lt_of_le (by positivity) least

/-- Few digits, none of them behind the point, stand for the value. -/
theorem Full.magnitude_eq {around : Neighbours} (full : Full d) (whole : (shortest around d).Whole)
    (small : (shortest around d).whole < 2 ^ 53) : d.magnitude = (shortest around d).whole := by
  obtain ⟨-, back⟩ := full.readsBack around
  rw [whole.value_eq] at back
  exact back.eq_of_lt_pow full.normal small

/-- The digits of a whole number do not reach behind the point. -/
theorem Large.whole {v : Nat} (h : Large d v) (positive : 0 < v) :
    (shortest around d).Whole ∧ ReadsBack d.significand d.scale (shortest around d).whole ∧
      10 ^ ((decimalPoint d.significand d.scale).toNat - 1) ≤ (shortest around d).whole ∧
      ((shortest around d).whole = v ∨ 10 ∣ (shortest around d).whole) := by
  have lead := leads_decimalPoint h.normal h.least h.most
  have size : d.magnitude = v := h.magnitude
  have large : 1 ≤ d.magnitude := by
    rw [size]
    exact_mod_cast positive
  have beyond := h.toFull.decimalPoint_pos large
  obtain ⟨places, hp⟩ : ∃ places : Nat, decimalPoint d.significand d.scale = places :=
    ⟨(decimalPoint d.significand d.scale).toNat, by omega⟩
  rw [hp] at lead beyond ⊢
  rw [Int.toNat_natCast]
  have searched : firstGrid around d.significand d.scale (decide (d.significand = 2 ^ 52)) places
      17 1 = shortest around d := by
    unfold shortest
    rw [h.binade, hp]
  exact firstGrid_whole h.normal h.magnitude lead (by omega) searched

/-- A whole number below `2 ^ 54` is the one that its digits stand for. -/
theorem Large.whole_eq {v : Nat} (h : Large d v) (positive : 0 < v) (small : v < 2 ^ 54) :
    (shortest around d).Whole ∧ (shortest around d).whole = v := by
  obtain ⟨whole, back, -, tens⟩ := h.whole around positive
  exact ⟨whole, back.eq_of_lt h.normal h.magnitude small tens⟩

/-- A hit has the point where the grid has it, or else it is a one in front of it. -/
theorem gridPoint?_point {around : Neighbours} {m count : Nat} {q point : Int} {atBinade : Bool}
    {D : Digits} (found : gridPoint? around m q atBinade point count = some D) :
    D.point = point ∨ D.point = point + 1 ∧
      (10 : ℚ) ^ point ≤ highQuarters m * 2 ^ (q - 2) := by
  obtain ⟨a, b, hg, factors⟩ := exists_factors (q - 2) (point - count)
  rw [gridPoint?_eq_find? hg, Option.map_eq_some_iff] at found
  obtain ⟨n, found, rfl⟩ := found
  have reach := le_of_inIntervalFrom (List.find?_some found)
  unfold pointed
  split
  · rename_i ten
    refine .inr ⟨rfl, ?_⟩
    rw [factors.ge_iff, ten, Nat.cast_pow, Nat.cast_ofNat,
      pow_mul_zpow (by norm_num) (add_sub_cancel (count : Int) point)] at reach
    exact reach
  · exact .inl rfl

/-- A fraction is not so near to one that it is rounded to it. -/
theorem highQuarters_lt_one {m : Nat} {q : Int} (some_bit : m ≠ 0)
    (fraction : (m : ℚ) * 2 ^ q < 1) : (highQuarters m : ℚ) * 2 ^ (q - 2) < 1 := by
  have one : (1 : ℚ) ≤ m := by exact_mod_cast Nat.one_le_iff_ne_zero.2 some_bit
  have negative : q < 0 := by
    by_contra whole
    have step : (1 : ℚ) ≤ 2 ^ q := one_le_zpow₀ one_le_two (not_lt.1 whole)
    nlinarith
  obtain ⟨k, rfl⟩ : ∃ k : Nat, q = -k := ⟨(-q).toNat, by omega⟩
  have steps : (2 : ℚ) ^ k * 2 ^ (-(k : Int)) = 1 := by
    rw [zpow_neg, zpow_natCast, mul_inv_cancel₀ (by positivity)]
  have unit : (0 : ℚ) < 2 ^ (-(k : Int)) := by positivity
  have fewer : m + 1 ≤ 2 ^ k := by
    rw [←steps] at fraction
    exact_mod_cast lt_of_mul_lt_mul_right fraction unit.le
  have fewer : (m : ℚ) + 1 ≤ 2 ^ k := by exact_mod_cast fewer
  have quarter : (2 : ℚ) ^ (-(k : Int) - 2) = 2 ^ (-(k : Int)) / 4 := by
    rw [zpow_sub₀ two_ne_zero]
    norm_num
  unfold highQuarters
  rw [quarter]
  push_cast
  nlinarith

/-- No digit of a fraction stands before the point. -/
theorem point_nonpos (some_bit : d.significand ≠ 0) (fraction : d.magnitude < 1) :
    (shortest around d).point ≤ 0 := by
  have before := decimalPoint_nonpos some_bit fraction
  unfold shortest
  generalize decimalPoint d.significand d.scale = point at before ⊢
  refine firstGrid_induction (P := fun D => D.point ≤ 0) (fun count D found => ?_) before 17 1
  obtain same | ⟨next, reach⟩ := gridPoint?_point found
  · exact same ▸ before
  · by_contra above
    have at_zero : point = 0 := by omega
    rw [at_zero, zpow_zero] at reach
    exact absurd (highQuarters_lt_one some_bit fraction) (not_lt.2 reach)

end Binary64

end CollectionRunner.Decimal
