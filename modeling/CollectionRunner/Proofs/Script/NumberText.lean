import CollectionRunner.Proofs.Decimal.Natural
import CollectionRunner.Proofs.Decimal.Unpacked
import CollectionRunner.Script.Numeral
import CollectionRunner.Text.Blank
import CollectionRunner.Text.Digits
import Mathlib.Data.List.TakeWhile

namespace CollectionRunner

namespace Text

theorem mem_dropWhile {p : Char → Bool} {c : Char} {cs : List Char} (h : c ∈ cs)
    (keep : p c = false) : c ∈ cs.dropWhile p := by
  rw [← List.takeWhile_append_dropWhile (p := p) (l := cs), List.mem_append] at h
  refine h.resolve_left fun dropped => ?_
  rw [List.mem_takeWhile_imp dropped] at keep
  cases keep

/-- Trimming leaves all that is not blank. -/
theorem mem_trim {c : Char} {s : String} (h : c ∈ s.toList) (solid : isBlank c = false) :
    c ∈ (trim s).toList := by
  unfold trim trimChars
  rw [String.toList_ofList, List.mem_reverse]
  exact mem_dropWhile (List.mem_reverse.2 (mem_dropWhile h solid)) solid

theorem trim_of_solid {s : String} (solid : ∀ c ∈ s.toList, isBlank c = false) : trim s = s := by
  have kept {cs : List Char} (h : ∀ c ∈ cs, isBlank c = false) : cs.dropWhile isBlank = cs := by
    cases cs with
    | nil => rfl
    | cons c rest => rw [List.dropWhile_cons_of_neg (by simp [h c List.mem_cons_self])]
  unfold trim trimChars
  rw [kept solid, kept fun c hc => solid c (List.mem_reverse.1 hc), List.reverse_reverse,
    String.ofList_toList]

theorem digitsValue?_eq_none {c : Char} {cs : List Char} (h : c ∈ cs) (other : c.isDigit = false)
    (acc : Nat) : digitsValue? acc cs = none := by
  induction cs generalizing acc with
  | nil => cases h
  | cons d rest ih =>
    rw [digitsValue?]
    split
    · rename_i digit
      refine ih ((List.mem_cons.1 h).resolve_left fun same => ?_) _
      rw [same, digit] at other
      cases other
    · rfl

/-- A text with a character that is no part of a number is none. -/
theorem natBelow?_eq_none {c : Char} {s : String} (h : c ∈ s.toList) (other : c.isDigit = false)
    (plus : c ≠ '+') (limit : Nat) : natBelow? limit s = none := by
  unfold natBelow?
  have none {digits : List Char} (behind : c ∈ digits) :
      (if digits.isEmpty then none else (digitsValue? 0 digits).filter (· < limit)) = none := by
    rw [digitsValue?_eq_none behind other]
    exact ite_self _
  split
  · rename_i rest text
    rw [text] at h
    exact none ((List.mem_cons.1 h).resolve_left plus)
  · exact none h

end Text

namespace Script

open Decimal Binary64

variable {x : Float}

theorem numberText_eq (finite : (ofFloat x).isFinite = true) :
    numberText x =
      if (ofFloat x).significand = 0 then "0"
      else (if (ofFloat x).negative then "-" else "") ++
        numberStyle.digitsText (shortest .nearer (ofFloat x)) := by
  unfold numberText
  rw [isNaN_eq_false finite, isInf_eq_false finite, beq_zero finite, if_neg Bool.false_ne_true,
    if_neg Bool.false_ne_true]
  split
  · rename_i zero
    rw [if_pos (of_decide_eq_true zero)]
  · rename_i some_bit
    have some_bit : (ofFloat x).significand ≠ 0 := fun zero => some_bit (decide_eq_true zero)
    unfold Style.text
    rw [if_neg some_bit, if_neg some_bit]
    rfl

theorem natBelow?_of_marked {s : String} (h : Marked s) (limit : Nat) :
    Text.natBelow? limit (Text.trim s) = none := by
  obtain point | power := h
  · exact Text.natBelow?_eq_none (Text.mem_trim point (by decide)) (by decide) (by decide) limit
  · exact Text.natBelow?_eq_none (Text.mem_trim power (by decide)) (by decide) (by decide) limit

theorem trim_toString (n : Nat) : Text.trim (toString n) = toString n := by
  refine Text.trim_of_solid fun c mem => ?_
  have digit : 48 ≤ c.toNat ∧ c.toNat ≤ 57 :=
    Char.isDigit_iff_toNat.1 (Text.isDigit_of_mem_toString mem)
  simp only [Text.isBlank, Bool.or_eq_false_iff, Bool.and_eq_false_iff, decide_eq_false_iff_not,
    beq_eq_false_iff_ne]
  omega

section Positive

variable {d : Binary64}

/-- A whole number that has no more bits than a significand is written in full. -/
theorem digitsText_of_large {n : Nat} (large : Large d n) (positive : 0 < n) (small : n < 2 ^ 53) :
    numberStyle.digitsText (shortest .nearer d) = toString n := by
  have bare : numberStyle.wholeTail = "" := rfl
  obtain ⟨whole, number⟩ := large.whole_eq .nearer positive (by omega)
  have least := whole.least
  rw [number] at least
  have few : (shortest .nearer d).point ≤ 21 := by
    by_contra many
    have : 10 ^ 20 ≤ n := (Nat.pow_le_pow_right (by decide) (by omega)).trans least
    omega
  have some_digit := List.length_pos_of_ne_nil
    (Nat.toDigits_ne_nil (n := (shortest .nearer d).digits) (b := 10))
  have fits := whole.fits
  rw [← number]
  refine digitsText_whole bare whole fun ends mem => ?_
  obtain rfl := Option.some.inj mem
  exact ⟨by dsimp only; omega, few⟩

/-- The digits of a double are read as a whole number exactly when the double is that number. -/
theorem natBelow?_digitsText (finite : d.isFinite = true) (some_bit : d.significand ≠ 0)
    {limit n : Nat} (small : limit ≤ 2 ^ 53) :
    Text.natBelow? limit (Text.trim (numberStyle.digitsText (shortest .nearer d))) = some n ↔
      d.magnitude = n ∧ n < limit := by
  have positive := magnitude_pos some_bit
  have bare : numberStyle.wholeTail = "" := rfl
  by_cases fraction : d.magnitude < 1
  · have behind := point_nonpos .nearer some_bit fraction
    rw [natBelow?_of_marked (marked_digitsText _ fun fits => not_lt.2 behind fits.1)]
    refine iff_of_false nofun fun value => ?_
    rw [value.1] at positive fraction
    have : 0 < n := by exact_mod_cast positive
    have : n < 1 := by exact_mod_cast fraction
    omega
  · have full := full_of_one_le finite (not_lt.1 fraction)
    constructor
    · intro read
      obtain ⟨whole, text⟩ | marked := whole_or_marked bare (full.readsBack .nearer).1
      · rw [text, trim_toString, Text.natBelow?_toString_eq, Option.ite_none_right_eq_some,
          Option.some.injEq] at read
        obtain ⟨below, rfl⟩ := read
        exact ⟨full.magnitude_eq whole (by omega), below⟩
      · rw [natBelow?_of_marked marked] at read
        cases read
    · rintro ⟨value, below⟩
      have some_unit : 0 < n := by
        rw [value] at positive
        exact_mod_cast positive
      have text := digitsText_of_large ⟨full, value⟩ some_unit (by omega)
      rw [text, trim_toString, Text.natBelow?_toString_eq, if_pos below]

end Positive

/-- The text of a number is read as a natural number exactly when the number is that natural
number. -/
theorem natBelow?_numberText (finite : (ofFloat x).isFinite = true) {limit n : Nat}
    (small : limit ≤ 2 ^ 53) :
    Text.natBelow? limit (Text.trim (numberText x)) = some n ↔
      (ofFloat x).value = n ∧ n < limit := by
  rw [numberText_eq finite]
  split
  · rename_i zero
    have nothing : (ofFloat x).value = 0 := by
      unfold value magnitude
      rw [zero]
      simp
    have text : "0" = toString 0 := rfl
    rw [text, trim_toString, Text.natBelow?_toString_eq, nothing, Option.ite_none_right_eq_some,
      Option.some.injEq]
    constructor
    · rintro ⟨below, rfl⟩
      exact ⟨Nat.cast_zero.symm, below⟩
    · rintro ⟨same, below⟩
      obtain rfl : 0 = n := by exact_mod_cast same
      exact ⟨below, rfl⟩
  · rename_i some_bit
    have positive := magnitude_pos some_bit
    unfold value
    split
    · have signed :
          '-' ∈ ("-" ++ numberStyle.digitsText (shortest .nearer (ofFloat x))).toList := by simp
      have solid := Text.mem_trim signed (by decide)
      rw [Text.natBelow?_eq_none solid (by decide) (by decide)]
      refine iff_of_false nofun fun below => ?_
      have := below.1 ▸ neg_neg_of_pos positive
      exact absurd this (not_lt.2 (Nat.cast_nonneg n))
    · rw [String.empty_append]
      exact natBelow?_digitsText finite some_bit small

end Script

end CollectionRunner
