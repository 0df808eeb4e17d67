import CollectionRunner.Http.Response
import Mathlib.Data.List.Forall2

namespace CollectionRunner

/-- Characters that are equal, or an ASCII letter in its two cases. -/
def SameLetter (c d : Char) : Prop :=
  c = d ∨ (c.isUpper = true ∧ d.toNat = c.toNat + 32) ∨ (d.isUpper = true ∧ c.toNat = d.toNat + 32)

/-- Texts that are equal up to the case of ASCII letters. -/
def SameUpToCase (a b : String) : Prop := List.Forall₂ SameLetter a.toList b.toList

instance : DecidableRel SameLetter := fun c d =>
  inferInstanceAs (Decidable (c = d ∨ _ ∨ _))

instance : DecidableRel SameUpToCase := fun a b =>
  inferInstanceAs (Decidable (List.Forall₂ SameLetter a.toList b.toList))

theorem isUpper_iff (c : Char) : c.isUpper = true ↔ 65 ≤ c.toNat ∧ c.toNat ≤ 90 := by
  unfold Char.isUpper
  rw [decide_eq_true_iff, ge_iff_le, UInt32.le_iff_toNat_le, UInt32.le_iff_toNat_le]
  rfl

theorem toNat_toLower (c : Char) :
    c.toLower.toNat = if 65 ≤ c.toNat ∧ c.toNat ≤ 90 then c.toNat + 32 else c.toNat := by
  by_cases upper : 65 ≤ c.toNat ∧ c.toNat ≤ 90
  · have step : (c.val + 32).toNat = c.val.toNat + 32 := by
      rw [UInt32.toNat_add]
      exact Nat.mod_eq_of_lt (Nat.lt_trans (Nat.add_lt_add_right (Nat.lt_succ_of_le upper.2) 32)
        (by decide))
    rw [if_pos upper]
    unfold Char.toLower
    rw [dif_pos (of_decide_eq_true ((isUpper_iff c).2 upper))]
    exact step
  · rw [if_neg upper]
    unfold Char.toLower
    rw [dif_neg fun h => upper ((isUpper_iff c).1 (decide_eq_true h))]

theorem sameLetter_iff (c d : Char) : SameLetter c d ↔ c.toLower = d.toLower := by
  unfold SameLetter
  rw [isUpper_iff, isUpper_iff, ← Char.toNat_inj, ← Char.toNat_inj, toNat_toLower, toNat_toLower]
  split <;> split <;> omega

theorem toLower_toLower (s : String) : s.toLower.toLower = s.toLower := by
  have once (c : Char) : c.toLower.toLower = c.toLower := by
    rw [← Char.toNat_inj, toNat_toLower]
    have := toNat_toLower c
    split at this <;> split <;> omega
  rw [← String.toList_inj]
  unfold String.toLower
  rw [String.toList_map, String.toList_map, List.map_map]
  exact List.map_congr_left fun c _ => once c

/-- Names are compared as equal exactly when they are so up to the case of ASCII letters. -/
theorem sameName_iff (a b : String) : sameName a b = true ↔ SameUpToCase a b := by
  unfold sameName SameUpToCase
  rw [beq_iff_eq, ← String.toList_inj]
  unfold String.toLower
  rw [String.toList_map, String.toList_map, ← List.forall₂_eq_eq_eq, List.forall₂_map_left_iff,
    List.forall₂_map_right_iff, funext₂ fun c d => propext (sameLetter_iff c d)]

example : SameUpToCase "Set-Cookie" "SET-COOKIE" ∧ ¬ SameUpToCase "É" "é" := by decide

theorem sameName_congr {a b : String} (h : SameUpToCase a b) (name : String) :
    sameName name a = sameName name b := by
  have same : a.toLower = b.toLower := by simpa [sameName] using (sameName_iff a b).2 h
  unfold sameName
  rw [same]

section Values

variable {headers : List (String × String)} {name other : String}

theorem firstHeader?_congr (h : SameUpToCase name other) :
    firstHeader? headers name = firstHeader? headers other := by
  simp only [firstHeader?, sameName_congr h]

variable (r : Response)

theorem Response.headerValues_congr (h : SameUpToCase name other) :
    r.headerValues name = r.headerValues other := by
  simp only [Response.headerValues, sameName_congr h]

/-- A header's value is the first of its values. -/
theorem Response.header?_eq_head? (name : String) :
    r.header? name = (r.headerValues name).head? := by
  unfold Response.header? firstHeader? Response.headerValues
  rw [List.head?_map, List.head?_filter]

/-- A header of the name, up to case, has the value. -/
def Response.Carries (name value : String) : Prop :=
  ∃ h ∈ r.headers, SameUpToCase h.1 name ∧ h.2 = value

variable {r}

theorem Response.mem_headerValues {value : String} :
    value ∈ r.headerValues name ↔ r.Carries name value := by
  unfold Response.headerValues Response.Carries
  simp only [List.mem_map, List.mem_filter, sameName_iff, and_assoc]

theorem Response.header?_eq_none_iff :
    r.header? name = none ↔ ∀ value, ¬ r.Carries name value := by
  rw [r.header?_eq_head?, List.head?_eq_none_iff, List.eq_nil_iff_forall_not_mem]
  simp only [Response.mem_headerValues]

end Values

end CollectionRunner
