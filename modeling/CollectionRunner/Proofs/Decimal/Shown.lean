import CollectionRunner.Json.Match
import CollectionRunner.Proofs.Decimal.Natural

namespace CollectionRunner.Decimal

theorem toString_neg {n : Nat} (hn : 0 < n) : toString (-(n : Int)) = "-" ++ toString n := by
  cases n with
  | zero => cases hn
  | succ n => rfl

namespace Binary64

variable {d d' : Binary64} {v v' : Nat} {n n' : Int}

theorem Large.shortest (h : Large d v) (large : 10 ^ 15 ≤ v) :
    (shortest .both d).Whole ∧ ReadsBack d.significand d.scale (shortest .both d).whole ∧
      10 ^ 15 ≤ (shortest .both d).whole ∧
      ((shortest .both d).whole = v ∨ 10 ∣ (shortest .both d).whole) := by
  have lead := leads_decimalPoint h.normal h.least h.most
  have beyond : 15 < decimalPoint d.significand d.scale := by
    by_contra within
    have most := lead.most.trans_le (zpow_le_zpow_right₀ (by norm_num) (not_lt.1 within))
    rw [h.magnitude] at most
    have : v < 10 ^ 15 := by exact_mod_cast most
    omega
  obtain ⟨whole, back, least, other⟩ := h.whole .both (lt_of_lt_of_le (by decide) large)
  exact ⟨whole, back, le_trans (Nat.pow_le_pow_right (by decide) (by omega)) least, other⟩

/-- The whole number that a double of the given whole value is written as. -/
def shown (d : Binary64) (n : Int) : Int :=
  if n.natAbs < 10 ^ 15 then n
  else if d.negative then -((Decimal.shortest .both d).whole : Int)
  else (Decimal.shortest .both d).whole

theorem naturalText_double (h : d.toInt? = some n) :
    (Json.Number.double d).naturalText = toString (d.shown n) := by
  unfold Json.Number.naturalText shown
  dsimp only
  rw [h]
  dsimp only
  rw [Nat.pow_eq]
  split
  · rfl
  · rename_i not_small
    have big := large_of_toInt? h (not_lt.1 not_small)
    obtain ⟨whole, -, least, -⟩ := big.shortest (not_lt.1 not_small)
    have some_bit : d.significand ≠ 0 := by
      have := big.normal.1
      omega
    have digits : plain.digitsText (Decimal.shortest .both d) =
        toString (Decimal.shortest .both d).whole := positionalText_whole whole
    unfold Style.text
    rw [if_neg some_bit, show plain.neighbours = .both from rfl, digits]
    split
    · rw [toString_neg (by omega)]
    · rfl

/-- Below `2 ^ 54` a double is written as its value. -/
theorem shown_eq_of_lt (h : d.toInt? = some n) (small : n.natAbs < 2 ^ 54) : d.shown n = n := by
  unfold shown
  split
  · rfl
  · rename_i not_small
    have big := large_of_toInt? h (not_lt.1 not_small)
    obtain ⟨-, back, -, tens⟩ := big.shortest (not_lt.1 not_small)
    rw [back.eq_of_lt big.normal big.magnitude small tens]
    exact (eq_of_value (toInt?_eq_some_iff.1 h).2).2.symm

theorem Large.shortest_eq_iff (h : Large d v) (h' : Large d' v') (large : 10 ^ 15 ≤ v)
    (large' : 10 ^ 15 ≤ v') :
    (Decimal.shortest .both d).whole = (Decimal.shortest .both d').whole ↔ v = v' := by
  constructor
  · intro same
    obtain ⟨-, back, -, -⟩ := h.shortest large
    obtain ⟨-, back', -, -⟩ := h'.shortest large'
    rw [same] at back
    obtain ⟨significand, scale⟩ := back.eq h.normal h'.normal back'
    have magnitude := h.magnitude
    rw [significand, scale, h'.magnitude] at magnitude
    exact_mod_cast magnitude.symm
  · rintro rfl
    have self := ReadsBack.self (q := d.scale) h.normal
    have self' := ReadsBack.self (q := d'.scale) h'.normal
    rw [h.magnitude] at self
    rw [h'.magnitude] at self'
    obtain ⟨significand, scale⟩ := self.eq h.normal h'.normal self'
    unfold Decimal.shortest
    rw [h.binade, h'.binade, significand, scale]

/-- Large numbers are written as large numbers of the same sign. -/
theorem shown_of_large (h : d.toInt? = some n) (large : 10 ^ 15 ≤ n.natAbs) :
    10 ^ 15 ≤ (d.shown n).natAbs ∧ (d.shown n).natAbs = (Decimal.shortest .both d).whole ∧
      (d.shown n < 0 ↔ n < 0) := by
  have sign := (eq_of_value (toInt?_eq_some_iff.1 h).2).2
  obtain ⟨-, -, least, -⟩ := (large_of_toInt? h large).shortest large
  unfold shown
  rw [if_neg (not_lt.2 large)]
  cases negative : d.negative with
  | true =>
    rw [negative, if_pos rfl] at sign
    rw [if_pos rfl]
    omega
  | false =>
    rw [negative, if_neg Bool.false_ne_true] at sign
    rw [if_neg Bool.false_ne_true]
    omega

/-- Doubles are written alike exactly when they have the same value. -/
theorem shown_eq_shown_iff (h : d.toInt? = some n) (h' : d'.toInt? = some n') :
    d.shown n = d'.shown n' ↔ n = n' := by
  by_cases small : n.natAbs < 10 ^ 15 <;> by_cases small' : n'.natAbs < 10 ^ 15
  · rw [shown, shown, if_pos small, if_pos small']
  · obtain ⟨large', -, -⟩ := shown_of_large h' (not_lt.1 small')
    rw [shown, if_pos small]
    exact iff_of_false (fun same => by omega) (fun same => by omega)
  · obtain ⟨large, -, -⟩ := shown_of_large h (not_lt.1 small)
    rw [shown.eq_def d', if_pos small']
    exact iff_of_false (fun same => by omega) (fun same => by omega)
  · obtain ⟨-, digits, sign⟩ := shown_of_large h (not_lt.1 small)
    obtain ⟨-, digits', sign'⟩ := shown_of_large h' (not_lt.1 small')
    have sizes := (large_of_toInt? h (not_lt.1 small)).shortest_eq_iff
      (large_of_toInt? h' (not_lt.1 small')) (not_lt.1 small) (not_lt.1 small')
    rw [←digits, ←digits'] at sizes
    omega

end Binary64

end CollectionRunner.Decimal
