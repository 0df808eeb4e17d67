namespace CollectionRunner.Http

/-- Adds a value to those of a name, which comes last if it is new. -/
def addValue (name value : String) : List (String × List String) → List (String × List String)
  | [] => [(name, [value])]
  | (other, values) :: rest =>
    if other = name then (other, values ++ [value]) :: rest
    else (other, values) :: addValue name value rest

theorem mem_names_addValue {name value other : String} {entries : List (String × List String)} :
    other ∈ (addValue name value entries).map (·.1) ↔ other = name ∨ other ∈ entries.map (·.1) := by
  induction entries with
  | nil => simp [addValue]
  | cons entry rest ih =>
    unfold addValue
    split
    · rename_i same
      simp [← same]
    · rw [List.map_cons, List.mem_cons, ih, List.map_cons, List.mem_cons, or_left_comm]

theorem nodup_names_addValue {name value : String} {entries : List (String × List String)}
    (h : (entries.map (·.1)).Nodup) : ((addValue name value entries).map (·.1)).Nodup := by
  induction entries with
  | nil => simp [addValue]
  | cons entry rest ih =>
    obtain ⟨first, distinct⟩ := List.nodup_cons.1 h
    unfold addValue
    split
    · exact h
    · rename_i other
      refine List.nodup_cons.2 ⟨fun twice => ?_, ih distinct⟩
      exact (mem_names_addValue.1 twice).elim other first

/-- Headers by their names, each of which stands there once. -/
structure HeaderMap where
  entries : List (String × List String) := []
  distinct : (entries.map (·.1)).Nodup := by decide
  deriving DecidableEq, Repr

namespace HeaderMap

def empty : HeaderMap := {}

def append (m : HeaderMap) (name value : String) : HeaderMap :=
  ⟨addValue name value m.entries, nodup_names_addValue m.distinct⟩

/-- Every value with its name, name by name. -/
def toList (m : HeaderMap) : List (String × String) :=
  m.entries.flatMap fun entry => entry.2.map (entry.1, ·)

/-- A value that is added comes after all others of its name. -/
theorem filter_toList_append (m : HeaderMap) (name value key : String) :
    (m.append name value).toList.filter (·.1 == key) =
      m.toList.filter (·.1 == key) ++ if name = key then [(name, value)] else [] := by
  obtain ⟨entries, distinct⟩ := m
  unfold append toList
  dsimp only
  induction entries with
  | nil => by_cases same : name = key <;> simp [addValue, same]
  | cons entry rest ih =>
    obtain ⟨other, values⟩ := entry
    obtain ⟨first, distinct⟩ := List.nodup_cons.1 distinct
    unfold addValue
    split
    · rename_i same
      have alone : name = key →
          (rest.flatMap fun entry => entry.2.map (entry.1, ·)).filter (·.1 == key) = [] := by
        rintro rfl
        simp only [List.filter_eq_nil_iff, List.mem_flatMap, List.mem_map]
        rintro _ ⟨entry, mem, _, -, rfl⟩ again
        exact first (List.mem_map.2 ⟨entry, mem, (eq_of_beq again).trans same.symm⟩)
      subst same
      by_cases key_eq : other = key
      · simp [alone key_eq, key_eq]
      · simp [key_eq]
    · rw [List.flatMap_cons, List.filter_append, ih distinct, List.flatMap_cons, List.filter_append,
        List.append_assoc]

end HeaderMap

end CollectionRunner.Http
