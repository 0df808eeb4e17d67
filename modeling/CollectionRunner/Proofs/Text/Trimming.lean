import CollectionRunner.Text.Blank
import Mathlib.Data.List.DropRight

namespace CollectionRunner.Text

/-- A text without blanks at its ends. -/
structure Trimmed (s : List Char) : Prop where
  first : ∀ c ∈ s.head?, isBlank c = false
  last : ∀ c ∈ s.getLast?, isBlank c = false

variable {s : List Char}

theorem trimChars_eq (s : List Char) :
    trimChars s = (s.dropWhile isBlank).rdropWhile isBlank := rfl

/-- Nothing is left of a text exactly when all of it is blank. -/
theorem trimChars_eq_nil_iff : trimChars s = [] ↔ ∀ c ∈ s, isBlank c = true := by
  rw [trimChars_eq, List.rdropWhile_eq_nil_iff]
  refine ⟨fun h => List.dropWhile_eq_nil_iff.mp ?_, fun h c hc => ?_⟩
  · cases kept : s.dropWhile isBlank with
    | nil => rfl
    | cons c rest =>
      -- the first character that is kept is no blank, so it cannot be dropped from the end
      have first : isBlank c = true := h c (by simp [kept])
      have head := List.head?_dropWhile_not isBlank s
      simp [kept, first] at head
  · rw [List.dropWhile_eq_nil_iff.mpr h] at hc
    cases hc

theorem trimChars_sublist (s : List Char) : List.Sublist (trimChars s) s := by
  rw [trimChars_eq]
  exact (List.rdropWhile_prefix isBlank _).sublist.trans (List.dropWhile_suffix isBlank).sublist

theorem trimmed_trimChars (s : List Char) : Trimmed (trimChars s) where
  first c hc := by
    rw [trimChars_eq] at hc
    -- what is dropped at the end leaves the first character that is no blank
    obtain ⟨dropped, front⟩ := List.rdropWhile_prefix isBlank (s.dropWhile isBlank)
    have head := List.head?_dropWhile_not isBlank s
    rwa [← front, List.head?_append, Option.mem_def.1 hc, Option.some_or] at head
  last c hc := by
    obtain ⟨some_left, rfl⟩ := List.mem_getLast?_eq_getLast hc
    exact eq_false_of_ne_true (List.rdropWhile_last_not isBlank (s.dropWhile isBlank) some_left)

theorem trimChars_eq_self_iff : trimChars s = s ↔ Trimmed s := by
  refine ⟨fun h => h ▸ trimmed_trimChars s, fun ⟨first, last⟩ => ?_⟩
  have front : s.dropWhile isBlank = s := by
    cases s with
    | nil => rfl
    | cons c rest => exact List.dropWhile_cons_of_neg (by simp [first c rfl])
  rw [trimChars_eq, front, List.rdropWhile_eq_self_iff]
  intro some_left
  exact ne_true_of_eq_false (last _ (List.getLast?_eq_some_getLast some_left))

/-- A text that loses nothing by trimming has no blanks at its ends. -/
theorem trimmed_of_length_le (h : s.length ≤ (trimChars s).length) : Trimmed s :=
  trimChars_eq_self_iff.1 ((trimChars_sublist s).eq_of_length_le h)

end CollectionRunner.Text
