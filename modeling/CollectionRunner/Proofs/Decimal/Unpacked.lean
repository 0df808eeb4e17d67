import CollectionRunner.Proofs.Decimal.Value
import Mathlib.Algebra.Order.Floor.Semifield
import Mathlib.Data.Nat.Bitwise
import Mathlib.Data.Rat.Floor

namespace CollectionRunner.Decimal.Binary64

open Float.Model Float.Model.UnpackedFloat

variable {d : Binary64} {x : Float}

theorem fractionBits_eq (d : Binary64) : d.fractionBits = d.bits.toNat % 2 ^ 52 := by
  unfold fractionBits
  rw [UInt64.toNat_and]
  exact Nat.and_two_pow_sub_one_eq_mod d.bits.toNat 52

theorem exponentBits_eq (d : Binary64) : d.exponentBits = d.bits.toNat / 2 ^ 52 % 2 ^ 11 := by
  unfold exponentBits
  rw [UInt64.toNat_and, UInt64.toNat_shiftRight, Nat.shiftRight_eq_div_pow]
  exact Nat.and_two_pow_sub_one_eq_mod _ 11

theorem negative_iff (d : Binary64) : d.negative = true ↔ 2 ^ 63 ≤ d.bits.toNat := by
  unfold negative
  rw [beq_iff_eq, ← UInt64.toNat_inj, UInt64.toNat_shiftRight, Nat.shiftRight_eq_div_pow]
  change d.bits.toNat / 2 ^ 63 = 1 ↔ _
  have := d.bits.toNat_lt
  omega

/-- The parts that the language takes a number's bits apart into. -/
theorem toNat_unpackMantissa (d : Binary64) :
    (@unpackMantissa .binary64 d.bits.toBitVec).toNat = d.fractionBits := by
  rw [fractionBits_eq, unpackMantissa]
  simp [BitVec.extractLsb]

theorem toNat_unpackExponent (d : Binary64) :
    (@unpackExponent .binary64 d.bits.toBitVec).toNat = d.exponentBits := by
  rw [exponentBits_eq, unpackExponent]
  simp [BitVec.extractLsb, Nat.shiftRight_eq_div_pow]

/-- The sign of a number. -/
def sign (d : Binary64) : Sign := if d.negative then .negative else .positive

theorem ofBitVec_unpackSign (d : Binary64) :
    Sign.ofBitVec (@unpackSign .binary64 d.bits.toBitVec) = d.sign := by
  have bit : (@unpackSign .binary64 d.bits.toBitVec).toNat = d.bits.toNat / 2 ^ 63 % 2 := by
    unfold unpackSign
    simp [BitVec.extractLsb, Nat.shiftRight_eq_div_pow]
  have most := d.bits.toNat_lt
  have positive : @unpackSign .binary64 d.bits.toBitVec = 0#1 ↔ ¬ d.negative = true := by
    rw [← BitVec.toNat_inj, bit, negative_iff]
    change _ = 0 ↔ _
    omega
  unfold Sign.ofBitVec sign
  exact (if_congr positive rfl rfl).trans (ite_not ..)

theorem finite_congr {sign : Sign} {m n : Nat} {e f : Int} (significand : m = n) (scale : e = f)
    (hm : 0 < m) (hn : 0 < n) :
    UnpackedFloat.finite sign m e hm = .finite sign n f hn := by
  subst significand scale
  rfl

/-- A finite number is taken apart into its sign, its significand and its scale. -/
theorem unpack_of_isFinite (finite : d.isFinite = true) :
    (d.significand = 0 ∧ UnpackedFloat.unpack .binary64 d.bits.toBitVec = .zero d.sign) ∨
      ∃ h : 0 < d.significand, UnpackedFloat.unpack .binary64 d.bits.toBitVec =
        .finite d.sign d.significand d.scale h := by
  have proper : d.exponentBits ≠ 2047 := by simpa [isFinite] using finite
  have fraction := d.toNat_unpackMantissa
  have exponent := d.toNat_unpackExponent
  have not_special : @unpackExponent .binary64 d.bits.toBitVec ≠ -1#_ := by
    rw [Ne, ← BitVec.toNat_inj, exponent]
    exact proper
  have bias : ((Format.exponentBias .binary64 : Nat) : Int) +
      (Format.mantissaBitsWithoutImplicit .binary64 : Nat) = 1075 := by decide
  unfold UnpackedFloat.unpack
  dsimp only
  rw [if_neg not_special, ofBitVec_unpackSign]
  by_cases zero : d.exponentBits = 0
  · have subnormal : @unpackExponent .binary64 d.bits.toBitVec = 0#_ := by
      rw [← BitVec.toNat_inj, exponent]
      exact zero
    have significand : d.significand = d.fractionBits := if_pos zero
    have scale : d.scale = -1074 := if_pos zero
    rw [if_pos subnormal]
    by_cases none : d.fractionBits = 0
    · have nothing : @unpackMantissa .binary64 d.bits.toBitVec = 0#_ := by
        rw [← BitVec.toNat_inj, fraction]
        exact none
      rw [dif_pos nothing]
      exact .inl ⟨significand.trans none, rfl⟩
    · have something : @unpackMantissa .binary64 d.bits.toBitVec ≠ 0#_ := by
        rw [Ne, ← BitVec.toNat_inj, fraction]
        exact none
      have positive : 0 < d.significand := significand ▸ Nat.pos_of_ne_zero none
      rw [dif_neg something]
      refine .inr ⟨positive, finite_congr (fraction.trans significand.symm) ?_ ..⟩
      rw [exponent, zero, bias, scale]
      rfl
  · have normal : @unpackExponent .binary64 d.bits.toBitVec ≠ 0#_ := by
      rw [Ne, ← BitVec.toNat_inj, exponent]
      exact zero
    have significand : d.significand = Nat.pow 2 52 + d.fractionBits := if_neg zero
    have scale : d.scale = (d.exponentBits : Int) - 1075 := if_neg zero
    have whole : (1#1 ++ @unpackMantissa .binary64 d.bits.toBitVec).toNat =
        Nat.pow 2 52 + d.fractionBits := by
      rw [BitVec.toNat_append, fraction, ← Nat.shiftLeft_add_eq_or_of_lt d.fractionBits_lt,
        Nat.shiftLeft_eq]
      exact congrArg (· + d.fractionBits) (Nat.one_mul (2 ^ 52))
    have positive : 0 < d.significand := significand ▸ Nat.add_pos_left (by decide) _
    rw [if_neg normal]
    refine .inr ⟨positive, finite_congr (whole.trans significand.symm) ?_ ..⟩
    rw [exponent, bias, scale]

theorem mantissa_shiftRight (em : ExtendedMantissa) (k : Nat) :
    (em >>> k).mantissa = em.mantissa / 2 ^ k := by
  induction k with
  | zero => exact (Nat.div_one _).symm
  | succ k ih =>
    change (em >>> k).mantissa / 2 = _
    rw [ih, Nat.div_div_eq_div_mul, Nat.pow_succ]

/-- A number is cut to a whole one toward zero. -/
theorem roundToInt_eq (s : Sign) (m : Nat) (e : Int) :
    roundToInt s m e = s.apply (⌊(m : ℚ) * 2 ^ e⌋₊ : Nat) := by
  have cut : ⌊(m : ℚ) * 2 ^ e⌋₊ = m * 2 ^ e.toNat / 2 ^ (-e).toNat := by
    rw [zpow_eq_div, mul_div_assoc', ← Nat.floor_div_eq_div (K := ℚ)]
    push_cast
    rfl
  have behind : (0 - (e - (e.toNat : Int))).toNat = (-e).toNat := by omega
  unfold roundToInt decreaseExponent shiftToExponent
  simp only [mantissa_shiftRight, Nat.shiftLeft_eq, sub_zero, behind, cut]
  rfl

/-- A number that is finite for the language has no special exponent. -/
theorem isFinite_ofFloat (finite : x.isFinite = true) : (ofFloat x).isFinite = true := by
  by_contra special
  have special : (ofFloat x).exponentBits = 2047 := by simpa [isFinite] using special
  have exponent : @unpackExponent .binary64 (ofFloat x).bits.toBitVec = -1#_ := by
    rw [← BitVec.toNat_inj, toNat_unpackExponent, special]
    rfl
  have none : (UnpackedFloat.unpack .binary64 (ofFloat x).bits.toBitVec).isFinite = false := by
    unfold UnpackedFloat.unpack
    dsimp only
    rw [if_pos exponent]
    split <;> rfl
  exact absurd finite (Bool.eq_false_iff.1 none)

variable (finite : (ofFloat x).isFinite = true)

include finite

theorem unpack_toModel :
    ((ofFloat x).significand = 0 ∧ x.toModel.unpack = .zero (ofFloat x).sign) ∨
      ∃ h : 0 < (ofFloat x).significand, x.toModel.unpack =
        .finite (ofFloat x).sign (ofFloat x).significand (ofFloat x).scale h :=
  unpack_of_isFinite finite

/-- A number is cut to sixteen bits by leaving out its fraction and then taking the nearest of those
that there are. -/
theorem toNat_toUInt16 : x.toUInt16.toNat = min ⌊(ofFloat x).value⌋₊ 65535 := by
  change (UInt16.ofNatClamp (x.toModel.unpack.toInt 0 (UInt16.size - 1)).toNat).toNat = _
  have clamped (n : Nat) : (UInt16.ofNatClamp n).toNat = min n 65535 := by
    unfold UInt16.ofNatClamp
    split
    · rename_i small
      exact (Nat.min_eq_left (Nat.le_of_lt_succ small)).symm
    · rename_i large
      exact (Nat.min_eq_right (Nat.le_of_succ_le (not_lt.1 large))).symm
  rw [clamped]
  congr 1
  unfold value magnitude
  obtain ⟨nothing, unpacked⟩ | ⟨positive, unpacked⟩ := unpack_toModel finite
  · rw [unpacked, nothing, Nat.cast_zero, zero_mul, neg_zero, ite_self, Nat.floor_zero]
    rfl
  · rw [unpacked]
    change (roundToInt _ _ _).toNat = _
    rw [roundToInt_eq, sign]
    split
    · have below : -((ofFloat x).significand * 2 ^ (ofFloat x).scale : ℚ) ≤ 0 :=
        neg_nonpos.2 (magnitude_nonneg _)
      rw [Nat.floor_of_nonpos below]
      exact Int.toNat_of_nonpos (neg_nonpos.2 (Int.natCast_nonneg _))
    · exact Int.toNat_natCast _

theorem isNaN_eq_false : x.isNaN = false := by
  change x.toModel.unpack.isNaN = false
  obtain ⟨-, unpacked⟩ | ⟨_, unpacked⟩ := unpack_toModel finite <;> rw [unpacked] <;> rfl

theorem isInf_eq_false : x.isInf = false := by
  change x.toModel.unpack.isInf = false
  obtain ⟨-, unpacked⟩ | ⟨_, unpacked⟩ := unpack_toModel finite <;> rw [unpacked] <;> rfl

/-- A number equals zero if its significand is zero, whatever its sign. -/
theorem beq_zero : (x == 0.0) = decide ((ofFloat x).significand = 0) := by
  have zero : (0.0 : Float).toModel.unpack = .zero .positive := by rfl
  change x.toModel.unpack.beq (0.0 : Float).toModel.unpack = _
  obtain ⟨nothing, unpacked⟩ | ⟨positive, unpacked⟩ := unpack_toModel finite
  · rw [unpacked, zero, decide_eq_true nothing]
    rfl
  · rw [unpacked, zero, decide_eq_false positive.ne']
    cases (ofFloat x).sign <;> rfl

end CollectionRunner.Decimal.Binary64
