import CollectionRunner.Proofs.Unicode.Tables
import CollectionRunner.Text.Blank
import CollectionRunner.Unicode.Case

namespace CollectionRunner.Unicode.Case

open Mapping

/-- Stretches of code points that are their own capital forms: ASCII but for its small letters, and
the blanks. -/
def caseless : List (Nat × Nat) :=
  [(0, 96), (123, 180), (0x1680, 0x1680), (0x2000, 0x205F), (0x3000, 0x3000)]

/-- The table of capitals begins with the small letters of ASCII, and says nothing of the stretches
without case. -/
theorem capitals_eq : ∃ later lists, capitals = ofTables (⟨97, 26, 1, -32⟩ :: later) lists ∧
    later.length + 1 < 2 ^ 24 ∧
    (∀ run ∈ later, 123 ≤ run.first ∧ ∀ s ∈ caseless, run.last < s.1 ∨ s.2 < run.first) ∧
    ∀ entry ∈ lists, entry.2 ≠ [] ∧ ∀ s ∈ caseless, entry.1 < s.1 ∨ s.2 < entry.1 := by
  have first_run {runs : List MappedRun} {lists} (first : runs.head? = some ⟨97, 26, 1, -32⟩) :
      ofTables runs lists = ofTables (⟨97, 26, 1, -32⟩ :: runs.tail) lists := by
    obtain ⟨later, rfl⟩ := List.head?_eq_some_iff.1 first
    rfl
  refine ⟨_, _, (packed_eq _ _).trans (first_run ?_), ?_⟩
  all_goals
    simp only [List.flatMap_cons, List.flatMap_nil]
    -- the kernel reads the characters of a list much faster than those of a text
    repeat rw [String.toList_ofList]
    decide +kernel

variable {n : Nat} {c : Char}

theorem upper_eq_self (h : ∃ s ∈ caseless, s.1 ≤ n ∧ n ≤ s.2) : upper n = [n] := by
  obtain ⟨s, mem, low, high⟩ := h
  obtain ⟨later, lists, eq, few, runs, entries⟩ := capitals_eq
  rw [upper, eq]
  refine apply_ofTables_eq_self few (List.forall_mem_cons.2 ⟨?_, fun run hrun => ?_⟩)
    fun entry hentry => ?_
  · have : s.2 < 97 ∨ 122 < s.1 := by
      have apart : ∀ s ∈ caseless, s.2 < 97 ∨ 122 < s.1 := by decide
      exact apart s mem
    simp only [MappedRun.last]
    omega
  · have := (runs run hrun).2 s mem
    omega
  · have := (entries entry hentry).2 s mem
    omega

theorem upper_small (low : 97 ≤ n) (high : n ≤ 122) : upper n = [n - 32] := by
  obtain ⟨later, lists, eq, few, runs, -⟩ := capitals_eq
  rw [upper, eq, apply_ofTables_first few rfl ⟨low, by simp only; omega⟩ fun run hrun => by
    have := (runs run hrun).1
    omega]
  simp only [List.cons.injEq, and_true]
  omega

theorem upper_ne_nil (n : Nat) : upper n ≠ [] := by
  obtain ⟨later, lists, eq, -, -, entries⟩ := capitals_eq
  rw [upper, eq]
  exact apply_ofTables_ne_nil fun entry hentry => (entries entry hentry).1

/-- The capital form of a character. -/
def capital (c : Char) : List Char := (upper c.toNat).map Char.ofNat

theorem toList_upperString (s : String) : (upperString s).toList = s.toList.flatMap capital :=
  String.toList_ofList

theorem capital_ne_nil (c : Char) : capital c ≠ [] :=
  mt List.map_eq_nil_iff.1 (upper_ne_nil _)

theorem capital_of_isBlank (h : Text.isBlank c = true) : capital c = [c] := by
  have mem : ∃ s ∈ caseless, s.1 ≤ c.toNat ∧ c.toNat ≤ s.2 := by
    simp only [caseless, List.mem_cons, List.not_mem_nil, or_false, exists_eq_or_imp,
      exists_eq_left]
    simp only [Text.isBlank, Bool.or_eq_true, Bool.and_eq_true, decide_eq_true_eq, beq_iff_eq] at h
    omega
  rw [capital, upper_eq_self mem, List.map_singleton, Char.ofNat_toNat]

theorem capital_of_ascii (h : c.toNat < 128) : capital c = [c.toUpper] := by
  have shifted : ∀ n < 128, (Char.ofNat n).toUpper =
      Char.ofNat (if 97 ≤ n ∧ n ≤ 122 then n - 32 else n) := by decide +kernel
  have upper_eq : upper c.toNat =
      [if 97 ≤ c.toNat ∧ c.toNat ≤ 122 then c.toNat - 32 else c.toNat] := by
    split
    · next small => exact upper_small small.1 small.2
    · next other =>
      refine upper_eq_self ?_
      simp only [caseless, List.mem_cons, exists_eq_or_imp]
      omega
  have toUpper_eq := shifted c.toNat h
  rw [Char.ofNat_toNat] at toUpper_eq
  rw [capital, upper_eq, List.map_singleton, toUpper_eq]

theorem toUpper_of_not_ascii (h : 128 ≤ c.toNat) : c.toUpper = c := by
  have no_small : ¬ (c.val ≥ 'a'.val ∧ c.val ≤ 'z'.val) := fun small => by
    have : c.toNat ≤ 'z'.toNat := UInt32.le_iff_toNat_le.1 small.2
    have : 'z'.toNat = 122 := rfl
    omega
  exact dif_neg no_small

end CollectionRunner.Unicode.Case
