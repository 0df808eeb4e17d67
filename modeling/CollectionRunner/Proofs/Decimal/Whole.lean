import CollectionRunner.Decimal.Notation
import CollectionRunner.Proofs.Decimal.Interval

namespace CollectionRunner.Decimal

/-- How the logarithms to the bases two and ten compare. -/
theorem log_ten_bounds : ∀ n < 1024,
    10 ^ (n * 30103 / 100000) ≤ 10 * 2 ^ n ∧ 2 ^ (n + 1) < 10 ^ (n * 30103 / 100000 + 2) := by
  decide +kernel

section

variable {m : Nat} {q point : Int}

theorem Normal.log2_eq (hm : Normal m) : Nat.log2 m = 52 := by
  obtain ⟨least, most⟩ := hm
  exact (Nat.log2_eq_iff (by omega)).2 ⟨least, most⟩

theorem below_iff (m : Nat) (q k : Int) :
    m * (gridFactors q k).1 < (gridFactors q k).2 ↔ (m : ℚ) * 2 ^ q < 10 ^ k := by
  obtain ⟨a, b, hg, factors⟩ := exists_factors q k
  have one := factors.lt_iff m 1
  rw [Nat.one_mul, Nat.cast_one, one_mul] at one
  rw [hg]
  exact one

theorem leads_decimalPoint (hm : Normal m) (least : -52 ≤ q) (most : q ≤ 971) :
    Leads (decimalPoint m q) (m * 2 ^ q) := by
  obtain ⟨n, hn⟩ : ∃ n : Nat, (n : Int) = 52 + q := ⟨(52 + q).toNat, by omega⟩
  obtain ⟨lower, upper⟩ := log_ten_bounds n (by omega)
  have power : (2 : ℚ) ^ n = 2 ^ 52 * 2 ^ q := by
    rw [←zpow_natCast, hn, zpow_add₀ two_ne_zero]
    norm_cast
  have unit : (0 : ℚ) < 2 ^ q := by positivity
  have from_power : (2 : ℚ) ^ n ≤ m * 2 ^ q := by
    rw [power]
    exact mul_le_mul_of_nonneg_right (by exact_mod_cast hm.1) unit.le
  have to_power : (m : ℚ) * 2 ^ q < 2 ^ (n + 1) := by
    rw [pow_succ, power, mul_right_comm, ←pow_succ]
    exact mul_lt_mul_of_pos_right (by exact_mod_cast hm.2) unit
  have below := below_iff m q
  generalize hg : n * 30103 / 100000 = guess at lower upper
  have guessed : (52 + q) * 30103 / 100000 = (guess : Int) := by omega
  unfold gridFactors at below
  unfold decimalPoint gridFactors
  dsimp only
  rw [hm.log2_eq, Nat.cast_ofNat, guessed]
  simp only [decide_eq_true_iff, below]
  split_ifs with first second
  · refine ⟨le_trans ?_ from_power, first⟩
    rw [zpow_sub₀ (by norm_num), div_le_iff₀ (by norm_num), mul_comm]
    exact_mod_cast lower
  · exact ⟨by simpa using first, second⟩
  · refine ⟨by simpa [add_sub_assoc] using second, to_power.trans ?_⟩
    exact_mod_cast upper

/-- The decimal point of a fraction stands before its digits. -/
theorem decimalPoint_nonpos (positive : m ≠ 0) (fraction : (m : ℚ) * 2 ^ q < 1) :
    decimalPoint m q ≤ 0 := by
  have below := below_iff m q
  have negative : (Nat.log2 m : Int) + q < 0 := by
    by_contra large
    have power : (2 : ℚ) ^ Nat.log2 m * 2 ^ q = 2 ^ ((Nat.log2 m : Int) + q) :=
      pow_mul_zpow two_ne_zero rfl
    have least : (1 : ℚ) ≤ 2 ^ ((Nat.log2 m : Int) + q) :=
      one_le_zpow₀ one_le_two (not_lt.1 large)
    have from_power : (2 : ℚ) ^ Nat.log2 m ≤ m := by exact_mod_cast Nat.log2_self_le positive
    have := mul_le_mul_of_nonneg_right from_power (by positivity : (0 : ℚ) ≤ 2 ^ q)
    linarith
  unfold gridFactors at below
  unfold decimalPoint gridFactors
  dsimp only
  generalize hg : ((Nat.log2 m : Int) + q) * 30103 / 100000 = guess
  have guessed : guess < 0 := by omega
  simp only [decide_eq_true_iff, below]
  split_ifs with first second
  · exact guessed.le
  · omega
  · by_contra beyond
    have last : guess + 1 = 0 := by omega
    rw [last, zpow_zero] at second
    exact second fraction

/-- What holds of all hits, and of the digits that are given when there is none, holds of the first
one. -/
theorem firstGrid_induction {neighbours : Neighbours} {atBinade : Bool} {P : Digits → Prop}
    (hit : ∀ count d, gridPoint? neighbours m q atBinade point count = some d → P d)
    (none : P ⟨m, point⟩) (fuel count : Nat) :
    P (firstGrid neighbours m q atBinade point fuel count) := by
  induction fuel generalizing count with
  | zero => exact none
  | succ fuel ih =>
    unfold firstGrid
    cases h : gridPoint? neighbours m q atBinade point count with
    | some d => exact hit count d h
    | none => exact ih (count + 1)

/-- The search ends at a grid with a hit if there is one in its reach. -/
theorem firstGrid_hit {neighbours : Neighbours} {atBinade : Bool} (fuel count j : Nat)
    (reach : j < fuel)
    (hit : (gridPoint? neighbours m q atBinade point (count + j)).isSome = true) :
    ∃ i ≤ j, gridPoint? neighbours m q atBinade point (count + i) =
      some (firstGrid neighbours m q atBinade point fuel count) := by
  induction fuel generalizing count j with
  | zero => exact absurd reach (Nat.not_lt_zero j)
  | succ fuel ih =>
    unfold firstGrid
    cases h : gridPoint? neighbours m q atBinade point count with
    | some d => exact ⟨0, Nat.zero_le j, h⟩
    | none =>
      cases j with
      | zero => simp [h] at hit
      | succ j =>
        rw [show count + (j + 1) = count + 1 + j by omega] at hit
        obtain ⟨i, hi, found⟩ := ih (count + 1) j (by omega) hit
        exact ⟨i + 1, by omega, by rw [←found, show count + (i + 1) = count + 1 + i by omega]⟩

/-- The whole number that digits stand for when zeros fill the places up to the decimal point. -/
def Digits.whole (d : Digits) : Nat :=
  d.digits * 10 ^ (d.point.toNat - (Nat.toDigits 10 d.digits).length)

/-- Digits of which none stands behind the decimal point. -/
structure Digits.Whole (d : Digits) : Prop where
  positive : 0 < d.digits
  fits : (Nat.toDigits 10 d.digits).length ≤ d.point

theorem length_toDigits {count n : Nat} (hc : 0 < count) (least : 10 ^ (count - 1) ≤ n)
    (most : n < 10 ^ count) : (Nat.toDigits 10 n).length = count := by
  have upper := (Nat.length_toDigits_le_iff (by decide) hc).2 most
  have some_digit := List.length_pos_of_ne_nil (Nat.toDigits_ne_nil (n := n) (b := 10))
  by_contra other
  have fewer : (Nat.toDigits 10 n).length ≤ count - 1 := by omega
  have := (Nat.length_toDigits_le_iff (by decide) (by omega)).1 fewer
  omega

theorem whole_pointed {places count n : Nat} (hc : 0 < count) (inside : count ≤ places)
    (least : 10 ^ (count - 1) ≤ n) (most : n ≤ 10 ^ count) :
    (pointed places count n).Whole ∧
      (pointed places count n).whole = n * 10 ^ (places - count) := by
  have positive : 0 < n := lt_of_lt_of_le (by positivity) least
  unfold pointed
  split
  · rename_i ten
    have one : (Nat.toDigits 10 1).length = 1 := by decide
    refine ⟨⟨Nat.one_pos, ?_⟩, ?_⟩
    · dsimp only
      omega
    · rw [Digits.whole, one, Nat.one_mul, ten, ←Nat.pow_add]
      congr 1
      dsimp only
      omega
  · rename_i other
    have length := length_toDigits hc least (lt_of_le_of_ne most other)
    refine ⟨⟨positive, ?_⟩, ?_⟩
    · dsimp only
      omega
    · rw [Digits.whole, length, Int.toNat_natCast]

/-- The digits of a large whole number stand for one that is read back as the same double. That is
the number itself, unless zeros take the place of some of its digits. -/
theorem firstGrid_whole {around : Neighbours} (hm : Normal m) {v places : Nat}
    (value : (m : ℚ) * 2 ^ q = v)
    (lead : Leads places (m * 2 ^ q)) (hp : 0 < places) {d : Digits}
    (hd : firstGrid around m q (decide (m = 2 ^ 52)) places 17 1 = d) :
    d.Whole ∧ ReadsBack m q d.whole ∧ 10 ^ (places - 1) ≤ d.whole ∧
      (d.whole = v ∨ 10 ∣ d.whole) := by
  have step {count : Nat} (h : count ≤ places) :
      (10 : ℚ) ^ ((places : Int) - count) = (10 ^ (places - count) : Nat) := by
    rw [←Nat.cast_sub h, zpow_natCast]
    norm_cast
  have unit_steps : gridPoint? around m q (decide (m = 2 ^ 52)) places places =
      some (pointed places places v) := gridPoint?_exact hm (by rw [value, sub_self]; simp)
  -- with as many digits as there are places the number itself is a point of the grid
  obtain ⟨count, some_digit, inside, found⟩ : ∃ count, 0 < count ∧ count ≤ places ∧
      gridPoint? around m q (decide (m = 2 ^ 52)) places count = some d := by
    by_cases few : places ≤ 17
    · obtain ⟨i, hi, found⟩ := firstGrid_hit 17 1 (places - 1) (by omega)
        (by rw [show 1 + (places - 1) = places by omega, unit_steps]; rfl)
      exact ⟨1 + i, by omega, by omega, hd ▸ found⟩
    · obtain ⟨i, hi, found⟩ := firstGrid_hit 17 1 16 (by omega)
        (gridPoint?_isSome hm lead.least)
      exact ⟨1 + i, by omega, by omega, hd ▸ found⟩
  obtain ⟨n, least, most, digits, back⟩ := gridPoint?_eq_some lead some_digit found
  obtain ⟨whole, number⟩ := whole_pointed some_digit inside least most
  rw [←digits] at whole number
  rw [step inside] at back
  refine ⟨whole, ?_, ?_, ?_⟩
  · rw [number]
    exact_mod_cast back
  · rw [number]
    calc 10 ^ (places - 1) = 10 ^ (count - 1) * 10 ^ (places - count) := by
          rw [←Nat.pow_add]
          congr 1
          omega
      _ ≤ n * 10 ^ (places - count) := Nat.mul_le_mul_right _ least
  · rcases eq_or_lt_of_le inside with all | fewer
    · left
      subst all
      have same := Option.some.inj (found.symm.trans unit_steps)
      have v_least := lead.least
      have v_most := lead.most
      rw [value, ←Nat.cast_pred some_digit, zpow_natCast] at v_least
      rw [value, zpow_natCast] at v_most
      have itself := (whole_pointed (n := v) some_digit le_rfl (by exact_mod_cast v_least)
        (by exact_mod_cast v_most.le)).2
      rwa [←same, Nat.sub_self, Nat.pow_zero, Nat.mul_one] at itself
    · right
      rw [number]
      exact Dvd.dvd.mul_left (dvd_pow_self 10 (by omega)) n

end

end CollectionRunner.Decimal
