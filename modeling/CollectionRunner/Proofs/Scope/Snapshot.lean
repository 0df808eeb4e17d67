import CollectionRunner.Config

namespace CollectionRunner.Snapshot

variable {s : Snapshot} {source key : String} {v : Variable} {vars : List Variable}

/-- What a snapshot has seen are the keys of its entries, each of them once. -/
structure Sound (s : Snapshot) : Prop where
  seen_iff : ∀ key, key ∈ s.seen ↔ key ∈ s.entries.map (·.key)
  distinct : (s.entries.map (·.key)).Nodup

theorem sound_empty : empty.Sound := ⟨fun _ => Iff.rfl, .nil⟩

theorem Sound.add (h : s.Sound) (source : String) (v : Variable) : (s.add source v).Sound := by
  unfold Snapshot.add
  split
  · exact h
  · rename_i hn
    have hv : v.key ∉ s.entries.map (·.key) := fun hv =>
      hn (List.contains_iff_mem.2 ((h.seen_iff _).2 hv))
    refine ⟨fun key => ?_, ?_⟩
    · simp [h.seen_iff, or_comm]
    · rw [List.map_append, List.nodup_append]
      refine ⟨h.distinct, by simp, ?_⟩
      rintro a ha b hb rfl
      have ha' : a = v.key := List.mem_singleton.1 hb
      exact hv (ha' ▸ ha)

theorem Sound.push (h : s.Sound) (source : String) (vars : List Variable) :
    (s.push source vars).Sound := by
  induction vars generalizing s with
  | nil => exact h
  | cons v vars ih => exact ih (h.add source v)

theorem Sound.find?_isSome (h : s.Sound) : (s.find? key).isSome = true ↔ key ∈ s.seen := by
  rw [h.seen_iff]
  simp [find?, List.find?_isSome]

/-- What a scope has for a key: the first of its variables with that key. -/
def binding? (source : String) (vars : List Variable) (key : String) : Option ScopedVariable :=
  (vars.find? (·.key == key)).map fun v => ⟨v.key, v.value, source⟩

theorem binding?_cons : binding? source (v :: vars) key =
    (if v.key = key then some ⟨v.key, v.value, source⟩ else none).or
      (binding? source vars key) := by
  unfold binding?
  rw [List.find?_cons]
  split
  · rename_i hk
    rw [if_pos (beq_iff_eq.1 hk)]
    rfl
  · rename_i hk
    rw [if_neg (by simpa using hk)]
    rfl

theorem binding?_eq_none_iff : binding? source vars key = none ↔ ∀ v ∈ vars, v.key ≠ key := by
  simp [binding?]

theorem find?_add (h : s.Sound) (source : String) (v : Variable) (key : String) :
    (s.add source v).find? key =
      (s.find? key).or (if v.key = key then some ⟨v.key, v.value, source⟩ else none) := by
  unfold Snapshot.add
  split
  · rename_i hc
    split
    · rename_i hk
      have hs := h.find?_isSome.2 (hk ▸ List.contains_iff_mem.1 hc)
      obtain ⟨w, hw⟩ := Option.isSome_iff_exists.1 hs
      rw [hw, Option.some_or]
    · rw [Option.or_none]
  · unfold find?
    rw [List.find?_append]
    congr 1
    by_cases hk : v.key = key <;> simp [hk]

/-- Pushing a scope adds what it has for keys that were not there. -/
theorem find?_push (h : s.Sound) (source : String) (vars : List Variable) (key : String) :
    (s.push source vars).find? key = (s.find? key).or (binding? source vars key) := by
  induction vars generalizing s with
  | nil => exact (Option.or_none).symm
  | cons v vars ih =>
    have hp : s.push source (v :: vars) = (s.add source v).push source vars := rfl
    rw [hp, ih (h.add source v), find?_add h, binding?_cons, Option.or_assoc]

/-- A snapshot with scopes pushed onto it, each given by its label and its variables. -/
def pushAll (s : Snapshot) (scopes : List (String × List Variable)) : Snapshot :=
  scopes.foldl (fun s scope => s.push scope.1 scope.2) s

theorem Sound.pushAll (h : s.Sound) (scopes : List (String × List Variable)) :
    (s.pushAll scopes).Sound := by
  induction scopes generalizing s with
  | nil => exact h
  | cons scope scopes ih => exact ih (h.push scope.1 scope.2)

theorem find?_pushAll (h : s.Sound) (scopes : List (String × List Variable)) (key : String) :
    (s.pushAll scopes).find? key =
      (s.find? key).or (scopes.findSome? fun scope => binding? scope.1 scope.2 key) := by
  induction scopes generalizing s with
  | nil => exact (Option.or_none).symm
  | cons scope scopes ih =>
    have hp : s.pushAll (scope :: scopes) = (s.push scope.1 scope.2).pushAll scopes := rfl
    rw [hp, ih (h.push _ _), find?_push h, Option.or_assoc, List.findSome?_cons]
    cases binding? scope.1 scope.2 key <;> rfl

end CollectionRunner.Snapshot
