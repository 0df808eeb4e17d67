import CollectionRunner.Decimal.Shortest
import Mathlib.Algebra.Order.Field.Power
import Mathlib.Data.Rat.Cast.Order
import Mathlib.Tactic.FieldSimp
import Mathlib.Tactic.Linarith
import Mathlib.Tactic.NormNum
import Mathlib.Tactic.Ring

namespace CollectionRunner.Decimal

/-- The significand of a double with all of its bits in use. -/
def Normal (m : Nat) : Prop := 2 ^ 52 ≤ m ∧ m < 2 ^ 53

/-- The lower end of the interval of `m * 2 ^ q`, in units of `2 ^ (q - 2)`. It is nearer when the
next smaller double has half the step. -/
def lowQuarters (m : Nat) : Nat := if m = 2 ^ 52 then 4 * m - 1 else 4 * m - 2

/-- The upper end of the interval, in the same units. -/
def highQuarters (m : Nat) : Nat := 4 * m + 2

/-- A number that is read back as the double `m * 2 ^ q`; at an end of the interval it is so if the
significand is even. -/
structure ReadsBack (m : Nat) (q : Int) (x : ℚ) : Prop where
  low : (lowQuarters m : ℚ) * 2 ^ (q - 2) ≤ x
  high : x ≤ (highQuarters m : ℚ) * 2 ^ (q - 2)
  odd : m % 2 = 1 → (lowQuarters m : ℚ) * 2 ^ (q - 2) < x ∧ x < (highQuarters m : ℚ) * 2 ^ (q - 2)

theorem pow_mul_zpow {b : ℚ} (hb : b ≠ 0) {k : Nat} {y z : Int} (h : k + y = z) :
    b ^ k * b ^ y = b ^ z := by
  rw [←zpow_natCast, ←zpow_add₀ hb, h]

section

variable {m m' : Nat} {q q' : Int} {x : ℚ}

theorem Normal.lowQuarters_ge (h : Normal m) :
    4 * m - 2 ≤ lowQuarters m ∧ 2 ^ 54 - 1 ≤ lowQuarters m := by
  obtain ⟨least, -⟩ := h
  unfold lowQuarters
  split <;> omega

/-- Two intervals with a number in common overlap, and in more than an end if one of the
significands is odd. -/
theorem ReadsBack.overlap (h : ReadsBack m q x) (h' : ReadsBack m' q' x) {k : Nat}
    (hq : q' = q + k) :
    lowQuarters m' * 2 ^ k ≤ highQuarters m ∧
      (m % 2 = 1 ∨ m' % 2 = 1 → lowQuarters m' * 2 ^ k < highQuarters m) := by
  have unit : (0 : ℚ) < 2 ^ (q - 2) := by positivity
  have scaled : (2 : ℚ) ^ k * 2 ^ (q - 2) = 2 ^ (q' - 2) := pow_mul_zpow two_ne_zero (by omega)
  have low := h'.low
  have low_odd := fun odd => (h'.odd odd).1
  rw [←scaled, ←mul_assoc] at low low_odd
  constructor
  · have := le_of_mul_le_mul_right (low.trans h.high) unit
    exact_mod_cast this
  · rintro (odd | odd)
    · have := lt_of_mul_lt_mul_right (low.trans_lt (h.odd odd).2) unit.le
      exact_mod_cast this
    · have := lt_of_mul_lt_mul_right ((low_odd odd).trans_le h.high) unit.le
      exact_mod_cast this

theorem ReadsBack.significand_le (hm' : Normal m') (h : ReadsBack m q x)
    (h' : ReadsBack m' q x) : m' ≤ m := by
  obtain ⟨meet, odd⟩ := h.overlap h' (k := 0) (by simp)
  obtain ⟨low, -⟩ := hm'.lowQuarters_ge
  unfold highQuarters at meet odd
  -- intervals of neighbours meet in an end, which belongs to the even one only
  by_contra above
  have next : m' = m + 1 := by omega
  have := odd (by omega)
  omega

theorem ReadsBack.scale_le (hm : Normal m) (hm' : Normal m') (h : ReadsBack m q x)
    (h' : ReadsBack m' q' x) : q' ≤ q := by
  by_contra above
  obtain ⟨k, hk⟩ : ∃ k : Nat, q' = q + (k + 1 : Nat) := ⟨(q' - q - 1).toNat, by omega⟩
  obtain ⟨meet, odd⟩ := h.overlap h' hk
  obtain ⟨-, low⟩ := hm'.lowQuarters_ge
  have doubled : 2 * lowQuarters m' ≤ lowQuarters m' * 2 ^ (k + 1) := by
    rw [pow_succ, ←mul_assoc, mul_comm 2]
    exact Nat.mul_le_mul_right 2 (Nat.le_mul_of_pos_right _ (by positivity))
  obtain ⟨-, most⟩ := hm
  unfold highQuarters at meet odd
  -- only the largest significand comes that near to the next power of two, and it is odd
  have last : m = 2 ^ 53 - 1 := by omega
  have := odd (.inl (by omega))
  omega

/-- No number reads back as two doubles. -/
theorem ReadsBack.eq (hm : Normal m) (hm' : Normal m') (h : ReadsBack m q x)
    (h' : ReadsBack m' q' x) : m = m' ∧ q = q' := by
  obtain rfl : q = q' := le_antisymm (h'.scale_le hm' hm h) (h.scale_le hm hm' h')
  exact ⟨le_antisymm (h'.significand_le hm h) (h.significand_le hm' h'), rfl⟩

theorem four_mul_zpow (m : Nat) (q : Int) :
    ((4 * m : Nat) : ℚ) * 2 ^ (q - 2) = m * 2 ^ q := by
  rw [zpow_sub₀ two_ne_zero]
  push_cast
  ring

theorem ReadsBack.self (hm : Normal m) : ReadsBack m q (m * 2 ^ q) := by
  have unit : (0 : ℚ) < 2 ^ (q - 2) := by positivity
  have low : lowQuarters m < 4 * m := by
    obtain ⟨least, -⟩ := hm
    unfold lowQuarters
    split <;> omega
  have high : 4 * m < highQuarters m := Nat.lt_add_of_pos_right (by decide)
  have inside : (lowQuarters m : ℚ) * 2 ^ (q - 2) < m * 2 ^ q ∧
      (m : ℚ) * 2 ^ q < highQuarters m * 2 ^ (q - 2) := by
    rw [←four_mul_zpow m q]
    exact ⟨mul_lt_mul_of_pos_right (Nat.cast_lt.2 low) unit,
      mul_lt_mul_of_pos_right (Nat.cast_lt.2 high) unit⟩
  exact ⟨inside.1.le, inside.2.le, fun _ => inside⟩

/-- What reads back as a double is off by at most half a step. -/
theorem ReadsBack.near (hm : Normal m) (h : ReadsBack m q x) :
    (m : ℚ) * 2 ^ q - 2 ^ (q - 1) ≤ x ∧ x ≤ m * 2 ^ q + 2 ^ (q - 1) := by
  have half : (2 : ℚ) ^ (q - 1) = 2 * 2 ^ (q - 2) := by
    rw [show q - 1 = 1 + (q - 2) by ring, zpow_add₀ two_ne_zero, zpow_one]
  have low : ((4 * m : Nat) : ℚ) ≤ lowQuarters m + 2 := by
    have := hm.lowQuarters_ge.1
    exact_mod_cast (by omega : 4 * m ≤ lowQuarters m + 2)
  have unit : (0 : ℚ) < 2 ^ (q - 2) := by positivity
  have below := mul_le_mul_of_nonneg_right low unit.le
  rw [←four_mul_zpow m q, half]
  constructor
  · have := h.low
    linarith
  · have := h.high
    unfold highQuarters at this
    rw [Nat.cast_add, add_mul] at this
    exact_mod_cast this

/-- Below `2 ^ 54` no other multiple of ten reads back as the double of a whole number. -/
theorem ReadsBack.eq_of_lt {v n : Nat} (hm : Normal m) (h : ReadsBack m q n)
    (value : (m : ℚ) * 2 ^ q = v) (small : v < 2 ^ 54) (tens : n = v ∨ 10 ∣ n) : n = v := by
  have q_le : q ≤ 1 := by
    by_contra above
    have step : (2 : ℚ) ^ (2 : Int) ≤ 2 ^ q := zpow_le_zpow_right₀ one_le_two (by omega)
    have least : (2 : ℚ) ^ 52 ≤ m := by exact_mod_cast hm.1
    have most : (v : ℚ) < 2 ^ 54 := by exact_mod_cast small
    rw [←value] at most
    nlinarith
  obtain ⟨low, high⟩ := h.near hm
  rw [value] at low high
  rcases eq_or_lt_of_le q_le with rfl | below
  · -- the steps are twos, and neither neighbour of an even number is a multiple of ten
    have even : 2 * m = v := by
      rw [zpow_one, mul_comm] at value
      exact_mod_cast value
    rw [sub_self, zpow_zero] at low high
    have low : v ≤ n + 1 := by exact_mod_cast (by linarith : (v : ℚ) ≤ n + 1)
    have high : n ≤ v + 1 := by exact_mod_cast high
    omega
  · have half : (2 : ℚ) ^ (q - 1) ≤ 2 ^ (-1 : Int) := zpow_le_zpow_right₀ one_le_two (by omega)
    have half : (2 : ℚ) ^ (q - 1) < 1 := lt_of_le_of_lt half (by norm_num)
    have low : v < n + 1 := by exact_mod_cast (by linarith : (v : ℚ) < n + 1)
    have high : n < v + 1 := by exact_mod_cast (by linarith : (n : ℚ) < v + 1)
    omega

/-- A whole number of fewer bits than significands have reads back only as the double of its own
value. -/
theorem ReadsBack.eq_of_lt_pow {n : Nat} (hm : Normal m) (h : ReadsBack m q n)
    (small : n < 2 ^ 53) : (m : ℚ) * 2 ^ q = n := by
  have q_le : q ≤ 0 := by
    by_contra above
    have step : (2 : ℚ) ^ (-1 : Int) ≤ 2 ^ (q - 2) := zpow_le_zpow_right₀ one_le_two (by omega)
    have low : (lowQuarters m : ℚ) * 2 ^ (-1 : Int) ≤ n :=
      (mul_le_mul_of_nonneg_left step (Nat.cast_nonneg _)).trans h.low
    have twice : lowQuarters m ≤ 2 * n := by
      rw [zpow_neg_one, ←div_eq_mul_inv, div_le_iff₀ two_pos, mul_comm] at low
      exact_mod_cast low
    have := hm.lowQuarters_ge.2
    omega
  obtain ⟨k, rfl⟩ : ∃ k : Nat, q = -k := ⟨(-q).toNat, by omega⟩
  have unit : (0 : ℚ) < 2 ^ (-(k : Int)) := by positivity
  -- the number counted in steps of the double is off by at most half a step, that is not at all
  have steps : ((n * 2 ^ k : Nat) : ℚ) * 2 ^ (-(k : Int)) = n := by
    rw [zpow_neg, zpow_natCast]
    push_cast
    field_simp
  have half : (2 : ℚ) ^ (-(k : Int) - 1) = 2 ^ (-(k : Int)) / 2 := by
    rw [zpow_sub₀ two_ne_zero, zpow_one]
  obtain ⟨low, high⟩ := h.near hm
  rw [half, ←steps] at low high
  have low : (2 * m : ℚ) ≤ 2 * (n * 2 ^ k : Nat) + 1 := by nlinarith
  have high : (2 * (n * 2 ^ k : Nat) : ℚ) ≤ 2 * m + 1 := by nlinarith
  have same : n * 2 ^ k = m := by
    have low : 2 * m ≤ 2 * (n * 2 ^ k) + 1 := by exact_mod_cast low
    have high : 2 * (n * 2 ^ k) ≤ 2 * m + 1 := by exact_mod_cast high
    omega
  rw [←steps, same]

end

theorem zpow_eq_div (x : ℚ) (z : Int) : x ^ z = x ^ z.toNat / x ^ (-z).toNat := by
  obtain ⟨n, rfl | rfl⟩ := z.eq_nat_or_neg
  · simp
  · simp [zpow_neg]

/-- What a pair of factors stands for: so many steps of the grid to a unit of the value. -/
structure Factors (a b : Nat) (q step : Int) : Prop where
  pos : 0 < b
  ratio : (a : ℚ) * 10 ^ step = b * 2 ^ q

theorem exists_factors (q step : Int) :
    ∃ a b, gridFactors q step = (a, b) ∧ Factors a b q step := by
  refine ⟨_, _, rfl, by simp, ?_⟩
  rw [zpow_eq_div 2 q, zpow_eq_div 10 step]
  simp only [Nat.pow_eq, Nat.cast_mul, Nat.cast_pow, Nat.cast_ofNat]
  field_simp

namespace Factors

variable {a b : Nat} {q step : Int}

theorem scaled (h : Factors a b q step) : ∃ k : ℚ, 0 < k ∧
    (∀ c : Nat, ((c * a : Nat) : ℚ) = c * 2 ^ q * k) ∧
      ∀ n : Nat, ((n * b : Nat) : ℚ) = n * 10 ^ step * k := by
  have hb : (0 : ℚ) < b := by exact_mod_cast h.pos
  refine ⟨b / 10 ^ step, div_pos hb (by positivity), fun c => ?_, fun n => ?_⟩
  · rw [Nat.cast_mul, mul_assoc, mul_div_assoc', mul_comm _ (b : ℚ), ←h.ratio]
    field_simp
  · rw [Nat.cast_mul]
    field_simp

/-- Points of the grid are to multiples of the unit as their factors are. -/
theorem le_iff (h : Factors a b q step) (c n : Nat) :
    c * a ≤ n * b ↔ (c : ℚ) * 2 ^ q ≤ n * 10 ^ step := by
  obtain ⟨k, hk, units, points⟩ := h.scaled
  rw [←Nat.cast_le (α := ℚ), units, points, mul_le_mul_iff_left₀ hk]

theorem ge_iff (h : Factors a b q step) (c n : Nat) :
    n * b ≤ c * a ↔ (n : ℚ) * 10 ^ step ≤ c * 2 ^ q := by
  obtain ⟨k, hk, units, points⟩ := h.scaled
  rw [←Nat.cast_le (α := ℚ), units, points, mul_le_mul_iff_left₀ hk]

theorem lt_iff (h : Factors a b q step) (c n : Nat) :
    c * a < n * b ↔ (c : ℚ) * 2 ^ q < n * 10 ^ step := by
  rw [←not_le, ←not_le, h.ge_iff]

theorem gt_iff (h : Factors a b q step) (c n : Nat) :
    n * b < c * a ↔ (n : ℚ) * 10 ^ step < c * 2 ^ q := by
  rw [←not_le, ←not_le, h.le_iff]

end Factors

/-- Whether a point of a grid lies in the interval of a significand that has the given lower end. -/
def inIntervalFrom (low m a b n : Nat) : Bool :=
  if m % 2 = 0 then decide (low * a ≤ n * b ∧ n * b ≤ highQuarters m * a)
  else decide (low * a < n * b ∧ n * b < highQuarters m * a)

/-- Whether a point of a grid lies in the interval of a significand. -/
def inInterval (m a b n : Nat) : Bool := inIntervalFrom (lowQuarters m) m a b n

/-- The two points of a grid next to a value, the nearer one first. -/
def neighbours (value b : Nat) : List Nat :=
  let under := value / b
  let down := value - under * b
  let up := (under + 1) * b - value
  if decide (down < up) || (down == up && under % 2 == 0) then [under, under + 1]
  else [under + 1, under]

/-- The points of a grid that may stand for a value, the nearer one first. -/
def candidates (around : Neighbours) (value b : Nat) : List Nat :=
  match around with
  | .both => neighbours value b
  | .nearer => (neighbours value b).take 1

/-- The digits of a point of the grid with `count` digits. -/
def pointed (point : Int) (count n : Nat) : Digits :=
  if n = 10 ^ count then ⟨1, point + 1⟩ else ⟨n, point⟩

section

variable {around : Neighbours} {m a b count value n : Nat} {q point step : Int}
  {inside : Nat → Bool}

theorem gridPoint?_eq_find? {atBinade : Bool}
    (h : gridFactors (q - 2) (point - count) = (a, b)) :
    gridPoint? around m q atBinade point count = ((candidates around (4 * m * a) b).find?
      (inIntervalFrom (if atBinade then 4 * m - 1 else 4 * m - 2) m a b)).map
        (pointed point count) := by
  unfold gridPoint? candidates neighbours
  rw [h]
  dsimp only
  generalize (if atBinade = true then 4 * m - 1 else 4 * m - 2) = low
  generalize (decide (4 * m * a - 4 * m * a / b * b < _) || _) = atUnder
  change Option.map (pointed point count)
    (if inIntervalFrom low m a b _ = true then _
      else if (_ && inIntervalFrom low m a b _) = true then _ else _) = _
  cases around <;> cases atUnder <;> grind

theorem gridPoint?_eq (h : gridFactors (q - 2) (point - count) = (a, b)) :
    gridPoint? around m q (decide (m = 2 ^ 52)) point count =
      ((candidates around (4 * m * a) b).find? (inInterval m a b)).map (pointed point count) := by
  have low : (if decide (m = 2 ^ 52) = true then 4 * m - 1 else 4 * m - 2) = lowQuarters m := by
    simp [lowQuarters]
  rw [gridPoint?_eq_find? h, low]
  rfl

theorem le_of_inIntervalFrom {low : Nat} (h : inIntervalFrom low m a b n = true) :
    n * b ≤ highQuarters m * a := by
  unfold inIntervalFrom at h
  split at h
  · exact (of_decide_eq_true h).2
  · exact (of_decide_eq_true h).2.le

theorem inInterval_iff (h : Factors a b (q - 2) step) :
    inInterval m a b n = true ↔ ReadsBack m q (n * 10 ^ step) := by
  unfold inInterval inIntervalFrom
  split
  · rename_i even
    rw [decide_eq_true_iff, h.le_iff, h.ge_iff]
    exact ⟨fun ⟨low, high⟩ => ⟨low, high, fun odd => by omega⟩,
      fun inside => ⟨inside.low, inside.high⟩⟩
  · rename_i odd
    rw [decide_eq_true_iff, h.lt_iff, h.gt_iff]
    exact ⟨fun ⟨low, high⟩ => ⟨low.le, high.le, fun _ => ⟨low, high⟩⟩,
      fun inside => inside.odd (by omega)⟩

theorem mem_neighbours : n ∈ neighbours value b ↔ n = value / b ∨ n = value / b + 1 := by
  unfold neighbours
  dsimp only
  split
  · simp
  · simp [or_comm]

theorem mem_neighbours_of_mem_candidates (h : n ∈ candidates around value b) :
    n ∈ neighbours value b := by
  cases around with
  | both => exact h
  | nearer => exact List.mem_of_mem_take h

theorem find?_candidates_exact (hb : 0 < b) (hn : inside n = true) :
    (candidates around (n * b) b).find? inside = some n := by
  have first : neighbours (n * b) b = [n, n + 1] := by
    unfold neighbours
    simp [hb, Nat.add_mul]
  unfold candidates
  rw [first]
  cases around <;> simp [hn]

/-- The nearer one of the neighbours will do when every point at most half a step away does. -/
theorem find?_candidates_isSome (hb : 0 < b)
    (near : ∀ n, 2 * (n * b) ≤ 2 * value + b → 2 * value ≤ 2 * (n * b) + b → inside n = true) :
    ((candidates around value b).find? inside).isSome = true := by
  have under := Nat.div_mul_le_self value b
  have above := Nat.lt_div_mul_add hb (a := value)
  have step : (value / b + 1) * b = value / b * b + b := Nat.succ_mul _ _
  obtain ⟨n, rest, nearer, up, down⟩ : ∃ n rest, neighbours value b = n :: rest ∧
      2 * (n * b) ≤ 2 * value + b ∧ 2 * value ≤ 2 * (n * b) + b := by
    unfold neighbours
    dsimp only
    rw [step]
    split
    · rename_i half
      simp only [Bool.or_eq_true, decide_eq_true_iff, Bool.and_eq_true, beq_iff_eq] at half
      exact ⟨_, _, rfl, by omega, by omega⟩
    · rename_i half
      simp only [Bool.or_eq_true, decide_eq_true_iff, Bool.and_eq_true, beq_iff_eq] at half
      exact ⟨_, _, rfl, by omega, by omega⟩
  have first : n ∈ candidates around value b := by
    unfold candidates
    rw [nearer]
    cases around <;> simp
  exact List.find?_isSome.2 ⟨n, first, near n up down⟩

/-- A value with its first digit right after the decimal point, if that stands at `point`. -/
structure Leads (point : Int) (v : ℚ) : Prop where
  least : 10 ^ (point - 1) ≤ v
  most : v < 10 ^ point

/-- What is found on a grid has as many digits as the grid, and it is read back. -/
theorem gridPoint?_eq_some (lead : Leads point (m * 2 ^ q)) (hc : 0 < count) {d : Digits}
    (h : gridPoint? around m q (decide (m = 2 ^ 52)) point count = some d) :
    ∃ n, 10 ^ (count - 1) ≤ n ∧ n ≤ 10 ^ count ∧ d = pointed point count n ∧
      ReadsBack m q (n * 10 ^ (point - count)) := by
  obtain ⟨a, b, hg, factors⟩ := exists_factors (q - 2) (point - count)
  rw [gridPoint?_eq hg, Option.map_eq_some_iff] at h
  obtain ⟨n, found, rfl⟩ := h
  have inside := (inInterval_iff factors).1 (List.find?_some found)
  have next := mem_neighbours.1
    (mem_neighbours_of_mem_candidates (List.mem_of_find?_eq_some found))
  have least : 10 ^ (count - 1) ≤ 4 * m * a / b := by
    rw [Nat.le_div_iff_mul_le factors.pos, factors.ge_iff, four_mul_zpow]
    refine le_trans (le_of_eq ?_) lead.least
    rw [Nat.cast_pow, Nat.cast_ofNat, pow_mul_zpow (by norm_num)]
    omega
  have most : 4 * m * a / b < 10 ^ count := by
    rw [Nat.div_lt_iff_lt_mul factors.pos, factors.lt_iff, four_mul_zpow]
    refine lt_of_lt_of_eq lead.most ?_
    rw [Nat.cast_pow, Nat.cast_ofNat, pow_mul_zpow (by norm_num)]
    omega
  exact ⟨n, by omega, by omega, rfl, inside⟩

/-- A value that is a point of the grid itself is found. -/
theorem gridPoint?_exact (hm : Normal m) (h : (m : ℚ) * 2 ^ q = n * 10 ^ (point - count)) :
    gridPoint? around m q (decide (m = 2 ^ 52)) point count = some (pointed point count n) := by
  obtain ⟨a, b, hg, factors⟩ := exists_factors (q - 2) (point - count)
  have on_grid : 4 * m * a = n * b := by
    apply le_antisymm
    · rw [factors.le_iff, four_mul_zpow, h]
    · rw [factors.ge_iff, four_mul_zpow, h]
  have inside : inInterval m a b n = true := by
    rw [inInterval_iff factors, ←h]
    exact .self hm
  rw [gridPoint?_eq hg, on_grid, find?_candidates_exact factors.pos inside]
  rfl

/-- Seventeen digits are enough for any value. -/
theorem gridPoint?_isSome (hm : Normal m) (lead : 10 ^ (point - 1) ≤ (m : ℚ) * 2 ^ q) :
    (gridPoint? around m q (decide (m = 2 ^ 52)) point 17).isSome = true := by
  obtain ⟨a, b, hg, factors⟩ := exists_factors (q - 2) (point - (17 : Nat))
  rw [gridPoint?_eq hg, Option.isSome_map]
  refine find?_candidates_isSome factors.pos fun n up down => ?_
  have fine : 10 ^ 16 * b ≤ 4 * m * a := by
    rw [factors.ge_iff, four_mul_zpow]
    refine le_trans (le_of_eq ?_) lead
    rw [Nat.cast_pow, Nat.cast_ofNat, pow_mul_zpow (by norm_num)]
    omega
  have pos := factors.pos
  have most : m * a ≤ (2 ^ 53 - 1) * a := Nat.mul_le_mul_right a (Nat.le_sub_one_of_lt hm.2)
  rw [mul_assoc] at fine up down
  -- half a step of the grid is less than the way to either end of the interval
  have inside : lowQuarters m * a < n * b ∧ n * b < highQuarters m * a := by
    unfold lowQuarters highQuarters
    rw [Nat.add_mul, mul_assoc]
    split
    · rename_i least
      have value : m * a = 2 ^ 52 * a := by rw [least]
      rw [Nat.sub_mul, mul_assoc]
      omega
    · rw [Nat.sub_mul, mul_assoc]
      omega
  unfold inInterval inIntervalFrom
  split
  · exact decide_eq_true ⟨inside.1.le, inside.2.le⟩
  · exact decide_eq_true inside

end

end CollectionRunner.Decimal
