import CollectionRunner.Proofs.Scope.Snapshot
import Mathlib.Data.Finset.Card

namespace CollectionRunner.Snapshot

variable {s : Snapshot}

/-- The variables of scopes, one scope after another, each with the label of its scope. -/
def offers (scopes : List (String × List Variable)) : List ScopedVariable :=
  scopes.flatMap fun scope => scope.2.map fun v => ⟨v.key, v.value, scope.1⟩

/-- Of the variables with one key the first. -/
def firsts (offered : List ScopedVariable) : List ScopedVariable :=
  offered.eraseDupsBy fun v w => v.key == w.key

def accept (s : Snapshot) (v : ScopedVariable) : Snapshot :=
  s.add v.source { key := v.key, value := v.value }

theorem pushAll_eq_foldl (s : Snapshot) (scopes : List (String × List Variable)) :
    s.pushAll scopes = (offers scopes).foldl accept s := by
  unfold pushAll offers push
  simp only [List.foldl_flatMap, List.foldl_map]
  rfl

theorem Sound.accept (h : s.Sound) (v : ScopedVariable) : (s.accept v).Sound := h.add _ _

theorem accept_of_mem (h : s.Sound) {v : ScopedVariable} (hv : v.key ∈ s.entries.map (·.key)) :
    s.accept v = s :=
  if_pos (List.contains_iff_mem.2 ((h.seen_iff _).2 hv))

theorem entries_accept (h : s.Sound) {v : ScopedVariable} (hv : v.key ∉ s.entries.map (·.key)) :
    (s.accept v).entries = s.entries ++ [v] := by
  have new : s.accept v = ⟨s.entries ++ [v], v.key :: s.seen⟩ :=
    if_neg fun hc => hv ((h.seen_iff _).1 (List.contains_iff_mem.1 hc))
  rw [new]

theorem entries_foldl_accept (h : s.Sound) (offered : List ScopedVariable) :
    (offered.foldl accept s).entries =
      s.entries ++ firsts (offered.filter fun v => v.key ∉ s.entries.map (·.key)) := by
  induction offered generalizing s with
  | nil => exact s.entries.append_nil.symm
  | cons v offered ih =>
    rw [List.foldl_cons]
    by_cases hv : v.key ∈ s.entries.map (·.key)
    · rw [accept_of_mem h hv, ih h, List.filter_cons_of_neg (by simpa using hv)]
    · -- of the variables that follow, those of this key are passed over like those of older ones
      have later : offered.filter (fun w => w.key ∉ (s.accept v).entries.map (·.key)) =
          (offered.filter fun w => w.key ∉ s.entries.map (·.key)).filter
            fun w => (w.key == v.key) = false := by
        rw [entries_accept h hv, List.map_append, List.filter_filter]
        refine List.filter_congr fun w _ => ?_
        simp [or_comm]
      rw [ih (h.accept v), later, entries_accept h hv, List.append_assoc,
        List.filter_cons_of_pos (by simpa using hv)]
      exact congrArg (s.entries ++ ·) List.eraseDupsBy_cons.symm

/-- Pushing scopes keeps every entry and puts behind them what is new. -/
theorem entries_pushAll (h : s.Sound) (scopes : List (String × List Variable)) :
    (s.pushAll scopes).entries =
      s.entries ++ firsts ((offers scopes).filter fun v => v.key ∉ s.entries.map (·.key)) := by
  rw [pushAll_eq_foldl, entries_foldl_accept h]

theorem find?_pushAll_empty (scopes : List (String × List Variable)) (key : String) :
    (empty.pushAll scopes).find? key = (offers scopes).find? (·.key == key) := by
  rw [find?_pushAll sound_empty, offers, List.find?_flatMap]
  refine Option.none_or.trans (congrArg (scopes.findSome? ·) (funext fun scope => ?_))
  rw [List.find?_map]
  rfl

theorem key_mem_entries_iff {key : String} :
    key ∈ s.entries.map (·.key) ↔ (s.find? key).isSome = true := by
  simp [find?, List.find?_isSome]

theorem find?_push_of_isSome (h : s.Sound) {key : String} (hk : (s.find? key).isSome = true)
    (source : String) (vars : List Variable) : (s.push source vars).find? key = s.find? key := by
  obtain ⟨v, hv⟩ := Option.isSome_iff_exists.1 hk
  rw [find?_push h, hv, Option.some_or]

/-- Whatever scopes were pushed, the entries are the first of each key that was offered, in order,
and the keys seen are theirs. A scope that is pushed later changes none of them, nor what is found
for their keys. -/
theorem pushAll_firsts (scopes : List (String × List Variable)) :
    let s := empty.pushAll scopes
    (∀ key, key ∈ s.seen ↔ key ∈ s.entries.map (·.key)) ∧
    (s.entries.map (·.key)).Nodup ∧
    s.entries = firsts (offers scopes) ∧
    (∀ key, s.find? key = (offers scopes).find? (·.key == key)) ∧
    s.size = ((offers scopes).map (·.key)).toFinset.card ∧
    ∀ (source : String) (vars : List Variable),
      s.entries <+: (s.push source vars).entries ∧
      ∀ key ∈ s.entries.map (·.key), (s.push source vars).get? key = s.get? key ∧
        (s.push source vars).sourceOf? key = s.sourceOf? key := by
  intro s
  have sound : s.Sound := sound_empty.pushAll scopes
  have found : ∀ key, s.find? key = (offers scopes).find? (·.key == key) :=
    find?_pushAll_empty scopes
  refine ⟨sound.seen_iff, sound.distinct, ?_, found, ?_, fun source vars => ⟨?_, fun key hk => ?_⟩⟩
  · have entries : s.entries = [] ++ firsts ((offers scopes).filter fun v => v.key ∉ []) :=
      entries_pushAll sound_empty scopes
    simpa using entries
  · have keys : (s.entries.map (·.key)).toFinset = ((offers scopes).map (·.key)).toFinset := by
      ext key
      rw [List.mem_toFinset, List.mem_toFinset, key_mem_entries_iff, found]
      simp [List.find?_isSome]
    rw [← keys, List.toFinset_card_of_nodup sound.distinct, List.length_map]
    rfl
  · have pushed : s.push source vars = s.pushAll [(source, vars)] := rfl
    rw [pushed, entries_pushAll sound]
    exact List.prefix_append _ _
  · have same := find?_push_of_isSome sound (key_mem_entries_iff.1 hk) source vars
    unfold get? sourceOf?
    rw [same]
    exact ⟨rfl, rfl⟩

/-- A key that an environment repeats, and that the settings have too. -/
theorem pushAll_firsts_repeatedKey :
    let s := empty.pushAll
      [("Environment: Dev", [{ key := "host", value := "api" }, { key := "host", value := "old" }])]
    "host" ∈ s.entries.map (·.key) ∧
      (s.push "Config" [{ key := "host", value := "localhost" }]).get? "host" = s.get? "host" := by
  intro s
  have bound : "host" ∈ s.entries.map (·.key) := by decide
  obtain ⟨-, -, -, -, -, later⟩ := pushAll_firsts
    [("Environment: Dev", [{ key := "host", value := "api" }, { key := "host", value := "old" }])]
  exact ⟨bound, ((later "Config" [{ key := "host", value := "localhost" }]).2 "host" bound).1⟩

end CollectionRunner.Snapshot
