import CollectionRunner.Unicode.Mapping
import Mathlib.Algebra.Group.Nat.Defs

namespace CollectionRunner.Unicode

/-- The numbers that characters hold, after the part of one that has been read. -/
def numbersFrom : List Char → (part scale : Nat) → List Nat
  | [], _, _ => []
  | c :: rest, part, scale =>
    let d := packedDigit c
    if d < 32 then (part + d * scale) :: numbersFrom rest 0 1
    else numbersFrom rest (part + (d - 32) * scale) (scale * 32)

theorem toList_unpackFrom (s : List Char) (part scale : Nat) (done : Array Nat) :
    (unpackFrom s part scale done).toList = done.toList ++ numbersFrom s part scale := by
  induction s generalizing part scale done with
  | nil => simp [unpackFrom, numbersFrom]
  | cons c rest ih =>
    simp only [unpackFrom, numbersFrom]
    split <;> simp [ih]

theorem toList_unpack (lines : List String) :
    (unpack lines).toList = numbersFrom (lines.flatMap String.toList) 0 1 := by
  simp [unpack, toList_unpackFrom]

/-- The greatest code point of a run. -/
def MappedRun.last (run : MappedRun) : Nat := run.first + (run.count - 1) * run.step

namespace Mapping

/-- The runs that a row of numbers writes down. -/
def runsFrom : List Nat → (last : Nat) → List MappedRun
  | away :: size :: shift :: rest, last =>
    let run : MappedRun := ⟨last + away, size / 2 + 1, size % 2 + 1, signed shift⟩
    run :: runsFrom rest run.last
  | _, _ => []

/-- The keys with their lists that a row of numbers writes down. -/
def listsFrom : (fuel : Nat) → List Nat → (last : Nat) → List (Nat × List Nat)
  | fuel + 1, away :: count :: rest, last =>
    let key := last + away
    (key, stepsFrom key (rest.take count)) :: listsFrom fuel (rest.drop count) key
  | _, _, _ => []

theorem toList_runsOf (row : List Nat) (last : Nat) (done : Array MappedRun) :
    (runsOf row last done).toList = done.toList ++ runsFrom row last := by
  fun_induction runsOf row last done with
  | case1 away size shift rest last done run ih =>
    rw [ih, Array.toList_push, List.append_assoc]
    rfl
  | case2 row last done short => rw [runsFrom, List.append_nil]; exact short

theorem toList_listsOf (fuel : Nat) (row : List Nat) (last : Nat) (done : Array (Nat × List Nat)) :
    (listsOf fuel row last done).toList = done.toList ++ listsFrom fuel row last := by
  fun_induction listsOf fuel row last done with
  | case1 fuel away count rest last done key ih => simp [listsFrom, ih, key]
  | case2 fuel row last done short => rw [listsFrom, List.append_nil]; exact short

/-- The table of some runs, and of some keys with their lists. -/
def ofTables (runs : List MappedRun) (lists : List (Nat × List Nat)) : Mapping :=
  ⟨(runs.map (·.first)).toArray, runs.toArray, (lists.map (·.1)).toArray,
    (lists.map (·.2)).toArray⟩

theorem packed_eq (runs lists : List String) :
    packed runs lists =
      let row := numbersFrom (lists.flatMap String.toList) 0 1
      ofTables (runsFrom (numbersFrom (runs.flatMap String.toList) 0 1) 0)
        (listsFrom row.length row 0) := by
  simp [packed, ofTables, ← Array.toList_inj, toList_unpack, toList_runsOf, toList_listsOf]

section Place

variable {borders : Array Nat} {n k : Nat}

/-- Halving a stretch leads to a place with a number before it that is no greater, and a greater one
at it, when the ends of the stretch are such places as far as there are numbers. -/
theorem rankWithin_bounds {fuel low high : Nat} (ordered : low ≤ high)
    (inside : high ≤ borders.size) (enough : high - low < 2 ^ fuel)
    (below : ∀ k, low = k + 1 → ∃ b ∈ borders[k]?, b ≤ n)
    (above : ∀ b ∈ borders[high]?, n < b) :
    (∀ k, CodeSet.rankWithin borders n fuel low high = k + 1 → ∃ b ∈ borders[k]?, b ≤ n) ∧
      ∀ b ∈ borders[CodeSet.rankWithin borders n fuel low high]?, n < b := by
  induction fuel generalizing low high with
  | zero =>
    obtain rfl : low = high := by omega
    exact ⟨below, above⟩
  | succ fuel ih =>
    rw [CodeSet.rankWithin]
    split
    · obtain rfl : low = high := by omega
      exact ⟨below, above⟩
    · have middle : borders[(low + high) / 2]? = some (borders.getD ((low + high) / 2) 0) := by
        rw [Array.getD_eq_getD_getElem?, Array.getElem?_eq_getElem (by omega), Option.getD_some]
      dsimp only
      split
      · next no_greater =>
        refine ih (by omega) inside (by omega) (fun k hk => ?_) above
        rw [← Nat.succ.inj hk]
        exact ⟨_, middle, no_greater⟩
      · next greater =>
        refine ih (by omega) (by omega) (by omega) below fun b hb => ?_
        rw [middle, Option.mem_some_iff] at hb
        omega

theorem rank_bounds (s : CodeSet) (n : Nat) (small : s.borders.size < 2 ^ 24) :
    (∀ k, s.rank n = k + 1 → ∃ b ∈ s.borders[k]?, b ≤ n) ∧ ∀ b ∈ s.borders[s.rank n]?, n < b :=
  rankWithin_bounds (Nat.zero_le _) (Nat.le_refl _) small (by simp) (by simp)

theorem place?_eq_some (small : borders.size < 2 ^ 24) (h : place? borders n = some k) :
    ∃ b ∈ borders[k]?, b ≤ n := by
  have below := (rank_bounds ⟨borders⟩ n small).1
  rw [place?] at h
  split at h
  · cases h
  · next rank eq =>
    obtain rfl := Option.some.inj h
    exact below _ eq

theorem place?_eq_none (small : borders.size < 2 ^ 24) (h : place? borders n = none) :
    ∀ b ∈ borders[0]?, n < b := by
  have above := (rank_bounds ⟨borders⟩ n small).2
  rw [place?] at h
  split at h
  · next eq =>
    rw [CodeSet.rank, eq] at above
    exact above
  · cases h

end Place

section Apply

variable {runs : List MappedRun} {lists : List (Nat × List Nat)} {run : MappedRun} {n : Nat}

theorem le_last_of_covered (past : run.first ≤ n) (aligned : (n - run.first) % run.step = 0)
    (few : (n - run.first) / run.step < run.count) : n ≤ run.last := by
  have away := Nat.div_add_mod (n - run.first) run.step
  have least := Nat.mul_le_mul_right run.step (Nat.le_sub_one_of_lt few)
  rw [aligned, Nat.add_zero, Nat.mul_comm] at away
  simp only [MappedRun.last]
  omega

theorem first_le_of_found (few : runs.length < 2 ^ 24)
    (found : (place? (ofTables runs lists).starts n).bind ((ofTables runs lists).runs[·]?) =
      some run) : run ∈ runs ∧ run.first ≤ n := by
  obtain ⟨k, place, at_place⟩ := Option.bind_eq_some_iff.1 found
  have at_place : runs[k]? = some run := by simpa [ofTables] using at_place
  obtain ⟨first, at_first, past⟩ := place?_eq_some (by simpa [ofTables] using few) place
  simp only [ofTables, List.getElem?_toArray, List.getElem?_map, at_place, Option.map_some,
    Option.mem_some_iff] at at_first
  exact ⟨List.mem_of_getElem? at_place, at_first ▸ past⟩

/-- A code point outside the runs stands for itself when no list has it as its key. -/
theorem apply_ofTables_eq_self (few : runs.length < 2 ^ 24)
    (no_run : ∀ run ∈ runs, n < run.first ∨ run.last < n) (no_list : ∀ entry ∈ lists, entry.1 ≠ n) :
    (ofTables runs lists).apply n = [n] := by
  have no_form : (ofTables runs lists).ofRun? n = none := by
    rw [ofRun?]
    split
    · rfl
    · next run found =>
      obtain ⟨mem, past⟩ := first_le_of_found few found
      refine if_neg fun covered => ?_
      obtain ⟨aligned, count⟩ := by simpa using covered
      have := le_last_of_covered past aligned count
      have := no_run run mem
      omega
  have no_entry (k : Nat) (key : (ofTables runs lists).keys.getD k 0 = n) :
      (ofTables runs lists).lists[k]? = none := by
    simp only [ofTables, Array.getD_eq_getD_getElem?, List.getElem?_toArray, List.getElem?_map]
      at key ⊢
    cases at_place : lists[k]? with
    | none => rfl
    | some entry =>
      rw [at_place] at key
      exact absurd key (no_list entry (List.mem_of_getElem? at_place))
  rw [apply, find?, no_form]
  dsimp only
  split
  · rfl
  · next k _ =>
    split
    · next key => rw [no_entry k key]; rfl
    · rfl

theorem apply_ofTables_ne_nil (some_form : ∀ entry ∈ lists, entry.2 ≠ []) :
    (ofTables runs lists).apply n ≠ [] := by
  rw [apply, find?]
  split
  · exact List.cons_ne_nil _ _
  · split
    · exact List.cons_ne_nil _ _
    · next k _ =>
      split
      · cases at_place : (ofTables runs lists).lists[k]? with
        | none => exact List.cons_ne_nil _ _
        | some form =>
          simp only [ofTables, List.getElem?_toArray, List.getElem?_map, Option.map_eq_some_iff]
            at at_place
          obtain ⟨entry, mem, rfl⟩ := at_place
          exact some_form entry (List.mem_of_getElem? mem)
      · exact List.cons_ne_nil _ _

theorem place?_first (few : runs.length + 1 < 2 ^ 24) (past : run.first ≤ n)
    (later : ∀ r ∈ runs, n < r.first) :
    place? (ofTables (run :: runs) lists).starts n = some 0 := by
  have few : (ofTables (run :: runs) lists).starts.size < 2 ^ 24 := by simpa [ofTables] using few
  cases place : place? (ofTables (run :: runs) lists).starts n with
  | none =>
    have := place?_eq_none few place run.first (by simp [ofTables])
    omega
  | some k =>
    obtain _ | k := k
    · rfl
    · obtain ⟨first, at_first, within⟩ := place?_eq_some few place
      simp only [ofTables, List.getElem?_toArray, List.getElem?_map, List.getElem?_cons_succ,
        Option.mem_def, Option.map_eq_some_iff] at at_first
      obtain ⟨r, mem, rfl⟩ := at_first
      have := later r (List.mem_of_getElem? mem)
      omega

/-- The code points of the first run are moved by its shift when they are next to each other and all
the other runs come later. -/
theorem apply_ofTables_first (few : runs.length + 1 < 2 ^ 24) (adjacent : run.step = 1)
    (within : run.first ≤ n ∧ n < run.first + run.count) (later : ∀ r ∈ runs, n < r.first) :
    (ofTables (run :: runs) lists).apply n = [((n : Int) + run.shift).toNat] := by
  have found : (ofTables (run :: runs) lists).runs[0]? = some run := by simp [ofTables]
  rw [apply, find?, ofRun?, place?_first few within.1 later, Option.bind_some, found]
  simp [adjacent, Nat.sub_lt_left_of_lt_add within.1 within.2, Nat.mod_one]

end Apply

end Mapping

end CollectionRunner.Unicode
