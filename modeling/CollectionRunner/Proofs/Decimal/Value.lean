import CollectionRunner.Proofs.Decimal.Interval

namespace CollectionRunner.Decimal.Binary64

/-- The exact magnitude of a finite double. -/
def magnitude (d : Binary64) : ℚ := d.significand * 2 ^ d.scale

/-- The exact value of a finite double. -/
def value (d : Binary64) : ℚ := if d.negative then -d.magnitude else d.magnitude

variable {d : Binary64}

theorem fractionBits_lt (d : Binary64) : d.fractionBits < 2 ^ 52 := by
  unfold fractionBits
  rw [UInt64.toNat_and]
  exact lt_of_le_of_lt Nat.and_le_right (by decide)

theorem exponentBits_lt (d : Binary64) : d.exponentBits < 2 ^ 11 := by
  unfold exponentBits
  rw [UInt64.toNat_and]
  exact lt_of_le_of_lt Nat.and_le_right (by decide)

theorem magnitude_nonneg (d : Binary64) : 0 ≤ d.magnitude := by
  unfold magnitude
  positivity

theorem magnitude_pos {d : Binary64} (some_bit : d.significand ≠ 0) : 0 < d.magnitude :=
  mul_pos (by exact_mod_cast Nat.pos_of_ne_zero some_bit) (by positivity)

theorem abs_value (d : Binary64) : |d.value| = d.magnitude := by
  have nonneg := d.magnitude_nonneg
  unfold value
  split <;> simp [abs_of_nonneg nonneg]

/-- The whole number that `m * 2 ^ q` is, if it is one. -/
def wholeSize? (m : Nat) (q : Int) : Option Nat :=
  if 0 ≤ q then some (m * Nat.pow 2 q.toNat)
  else if m % Nat.pow 2 (-q).toNat = 0 then some (m / Nat.pow 2 (-q).toNat) else none

theorem wholeSize?_eq_some_iff {m v : Nat} {q : Int} :
    wholeSize? m q = some v ↔ (m : ℚ) * 2 ^ q = v := by
  unfold wholeSize?
  rw [Nat.pow_eq, Nat.pow_eq]
  split
  · rename_i whole
    obtain ⟨k, rfl⟩ := Int.eq_ofNat_of_zero_le whole
    rw [Int.toNat_natCast, zpow_natCast, Option.some.injEq]
    norm_cast
  · rename_i fractional
    obtain ⟨k, hk⟩ : ∃ k : Nat, -q = k := ⟨(-q).toNat, by omega⟩
    have unit : 0 < 2 ^ k := by positivity
    have multiple : (m : ℚ) * 2 ^ q = v ↔ m = v * 2 ^ k := by
      rw [show q = -(k : Int) by omega, zpow_neg, zpow_natCast, ←div_eq_mul_inv,
        div_eq_iff (by positivity)]
      norm_cast
    rw [hk, Int.toNat_natCast, multiple, Option.ite_none_right_eq_some, Option.some.injEq]
    constructor
    · rintro ⟨divides, rfl⟩
      exact (Nat.div_mul_cancel (Nat.dvd_of_mod_eq_zero divides)).symm
    · rintro rfl
      exact ⟨Nat.mul_mod_left v _, Nat.mul_div_cancel v unit⟩

theorem toInt?_eq : d.toInt? =
    if d.isFinite = true then
      (wholeSize? d.significand d.scale).map fun n : Nat => if d.negative then -(n : Int) else n
    else none := by
  have sized : d.toInt? = if d.isFinite = true then
      ((wholeSize? d.significand d.scale).bind fun n => some (n : Int)).map
        fun n => if d.negative then -n else n
      else none := by
    unfold toInt? wholeSize?
    cases d.isFinite <;> rfl
  rw [sized]
  cases wholeSize? d.significand d.scale <;> rfl

/-- A whole value has the sign that the double has, unless it is zero. -/
theorem eq_of_value {n : Int} (h : d.value = n) :
    d.magnitude = n.natAbs ∧ n = if d.negative then -(n.natAbs : Int) else n.natAbs := by
  have nonneg := d.magnitude_nonneg
  refine ⟨by rw [←d.abs_value, h, Nat.cast_natAbs, Int.cast_abs], ?_⟩
  unfold value at h
  split at h
  · have : n ≤ 0 := by
      rw [←Int.cast_nonpos (R := ℚ), ←h]
      exact neg_nonpos.2 nonneg
    rw [if_pos ‹_›]
    omega
  · have : 0 ≤ n := by
      rw [←Int.cast_nonneg_iff (R := ℚ), ←h]
      exact nonneg
    rw [if_neg ‹_›]
    omega

/-- A finite double is the whole number that its exact value is, and none if that has a fraction. -/
theorem toInt?_eq_some_iff {n : Int} :
    d.toInt? = some n ↔ d.isFinite = true ∧ d.value = n := by
  rw [toInt?_eq, Option.ite_none_right_eq_some, Option.map_eq_some_iff]
  refine and_congr_right fun _ => ?_
  simp only [wholeSize?_eq_some_iff]
  constructor
  · rintro ⟨v, size, rfl⟩
    have size : d.magnitude = v := size
    unfold value
    split <;> simp [size]
  · intro h
    obtain ⟨size, sign⟩ := eq_of_value h
    exact ⟨n.natAbs, size, sign.symm⟩

/-- A double of which all bits of the significand are in use. -/
structure Full (d : Binary64) : Prop where
  normal : Normal d.significand
  least : -52 ≤ d.scale
  most : d.scale ≤ 971
  binade : d.atBinade = decide (d.significand = 2 ^ 52)

theorem full_of_one_le (finite : d.isFinite = true) (large : 1 ≤ d.magnitude) : Full d := by
  have fraction := d.fractionBits_lt
  have exponent := d.exponentBits_lt
  have proper : d.exponentBits ≠ 2047 := by simpa [isFinite] using finite
  have significand_lt : d.significand < 2 ^ 53 := by
    unfold significand
    rw [Nat.pow_eq]
    split <;> omega
  have least : -52 ≤ d.scale := by
    by_contra below
    have small : d.magnitude < 1 := by
      calc (d.significand : ℚ) * 2 ^ d.scale
          ≤ d.significand * 2 ^ (-53 : Int) := by
            refine mul_le_mul_of_nonneg_left ?_ (Nat.cast_nonneg _)
            exact zpow_le_zpow_right₀ one_le_two (by omega)
        _ < 2 ^ 53 * 2 ^ (-53 : Int) :=
            mul_lt_mul_of_pos_right (by exact_mod_cast significand_lt) (by positivity)
        _ = 1 := by norm_num
    exact absurd large (not_le.2 small)
  have used : d.exponentBits ≠ 0 := by
    intro zero
    unfold scale at least
    rw [if_pos zero] at least
    omega
  have scale_eq : d.scale = d.exponentBits - 1075 := if_neg used
  have significand_eq : d.significand = 2 ^ 52 + d.fractionBits := if_neg used
  refine ⟨⟨by omega, significand_lt⟩, least, by omega, ?_⟩
  unfold atBinade
  rw [Bool.eq_iff_iff, Bool.and_eq_true, beq_iff_eq, decide_eq_true_iff, decide_eq_true_iff]
  omega

/-- A double whose magnitude is a large whole number has all bits of its significand in use. -/
structure Large (d : Binary64) (v : Nat) : Prop extends Full d where
  magnitude : (d.significand : ℚ) * 2 ^ d.scale = v

theorem large_of_toInt? {n : Int} (h : d.toInt? = some n) (large : 10 ^ 15 ≤ n.natAbs) :
    Large d n.natAbs := by
  obtain ⟨finite, whole⟩ := toInt?_eq_some_iff.1 h
  have size : d.magnitude = n.natAbs := (eq_of_value whole).1
  have full : Full d := full_of_one_le finite (by
    rw [size]
    exact_mod_cast le_trans (by decide) large)
  exact ⟨full, size⟩

end CollectionRunner.Decimal.Binary64
