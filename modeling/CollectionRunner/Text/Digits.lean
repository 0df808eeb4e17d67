namespace CollectionRunner.Text

/-- The number of a list of digits, given those before it. -/
def digitsValue? (acc : Nat) : List Char → Option Nat
  | [] => some acc
  | c :: rest => if c.isDigit then digitsValue? (acc * 10 + (c.toNat - 48)) rest else none

/-- The number below `limit` that a text is written as. -/
def natBelow? (limit : Nat) (s : String) : Option Nat :=
  let digits := match s.toList with
    | '+' :: rest => rest
    | cs => cs
  if digits.isEmpty then none else (digitsValue? 0 digits).filter (· < limit)

theorem natBelow?_lt {limit n : Nat} {s : String} (h : natBelow? limit s = some n) :
    n < limit := by
  have kept := (Option.ite_none_left_eq_some.1 h).2
  exact of_decide_eq_true (Option.filter_eq_some_iff.1 kept).2

theorem digitsValue?_eq {cs : List Char} (h : ∀ c ∈ cs, c.isDigit = true) (acc : Nat) :
    digitsValue? acc cs = some (Nat.ofDigitChars 10 cs acc) := by
  induction cs generalizing acc with
  | nil => rfl
  | cons c cs ih =>
    obtain ⟨hc, hr⟩ := List.forall_mem_cons.1 h
    rw [digitsValue?, if_pos hc, ih hr, Nat.ofDigitChars_cons, Nat.mul_comm 10 acc]
    rfl

theorem toList_toString (n : Nat) : (toString n).toList = Nat.toDigits 10 n := by
  rw [Nat.toString_eq_repr, Nat.toList_repr]

/-- The text of a number has nothing but digits, and so no sign. -/
theorem isDigit_of_mem_toString {n : Nat} {c : Char} (h : c ∈ (toString n).toList) :
    c.isDigit = true := by
  rw [toList_toString] at h
  exact Nat.isDigit_of_mem_toDigits (by decide) (by decide) h

/-- A number is read from its decimal digits if it is below the limit. -/
theorem natBelow?_toString_eq (limit n : Nat) :
    natBelow? limit (toString n) = if n < limit then some n else none := by
  have digits (c : Char) (h : c ∈ (toString n).toList) := isDigit_of_mem_toString h
  have read : digitsValue? 0 (toString n).toList = some n := by
    rw [digitsValue?_eq digits, toList_toString, Nat.ofDigitChars_toDigits (by decide) (by decide)]
  unfold natBelow?
  split
  · rename_i signed
    exact absurd (digits '+' (signed ▸ List.mem_cons_self)) (by decide)
  · have some_digit : ¬ (toString n).toList.isEmpty = true := by simp
    rw [if_neg some_digit, read, Option.filter_some]
    simp only [decide_eq_true_eq]

theorem natBelow?_toString {limit n : Nat} (h : n < limit) :
    natBelow? limit (toString n) = some n := by
  rw [natBelow?_toString_eq, if_pos h]

/-- Different numbers have different decimal texts. -/
theorem toString_nat_inj {m n : Nat} : toString m = toString n ↔ m = n := by
  refine ⟨fun same => ?_, congrArg toString⟩
  have read : natBelow? (m + n + 1) (toString m) = some m := natBelow?_toString (by omega)
  rw [same, natBelow?_toString (by omega)] at read
  exact (Option.some.inj read).symm

theorem toString_nat_ne_minus (n : Nat) (s : String) : toString n ≠ "-" ++ s := by
  intro same
  have minus : '-' ∈ (toString n).toList := by
    rw [same, String.toList_append]
    exact List.mem_append_left _ (by decide)
  exact absurd (isDigit_of_mem_toString minus) (by decide)

/-- Different integers have different decimal texts. -/
theorem toString_int_inj {a b : Int} : toString a = toString b ↔ a = b := by
  refine ⟨fun same => ?_, congrArg toString⟩
  cases a with
  | ofNat m =>
    cases b with
    | ofNat n => exact congrArg Int.ofNat (toString_nat_inj.1 same)
    | negSucc n => exact absurd same (toString_nat_ne_minus m _)
  | negSucc m =>
    cases b with
    | ofNat n => exact absurd same.symm (toString_nat_ne_minus n _)
    | negSucc n =>
      have digits : toString (m + 1) = toString (n + 1) := (String.append_right_inj "-").1 same
      rw [Nat.succ.inj (toString_nat_inj.1 digits)]

end CollectionRunner.Text
