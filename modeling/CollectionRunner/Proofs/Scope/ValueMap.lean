import CollectionRunner.Proofs.Scope.Snapshot

namespace CollectionRunner

variable {entries : List ScopedVariable} {key k value : String} {m : List (String × String)}

theorem mapValue?_cons :
    mapValue? ((k, value) :: m) key = if k = key then some value else mapValue? m key := by
  unfold mapValue?
  by_cases hk : k = key
  · simp [hk]
  · have other : (key == k) = false := by simpa using Ne.symm hk
    rw [List.lookup_cons, other, if_neg hk]

/-- What is put under a key takes the place of what the key had, and no other key loses its own. -/
theorem mapValue?_putEntry :
    mapValue? (Snapshot.putEntry k value m) key =
      if k = key then some value else mapValue? m key := by
  fun_induction Snapshot.putEntry k value m with
  | case1 => exact mapValue?_cons
  | case2 v rest =>
    rw [mapValue?_cons, mapValue?_cons]
    split <;> rfl
  | case3 k' v rest hne ih =>
    rw [mapValue?_cons, mapValue?_cons, ih]
    by_cases hk : k' = key
    · have other : k ≠ key := fun h => hne (hk.trans h.symm)
      rw [if_pos hk, if_neg other, if_pos hk]
    · rw [if_neg hk, if_neg hk]

theorem keys_putEntry :
    (Snapshot.putEntry k value m).map (·.1) =
      if k ∈ m.map (·.1) then m.map (·.1) else m.map (·.1) ++ [k] := by
  fun_induction Snapshot.putEntry k value m with
  | case1 => rfl
  | case2 v rest => simp
  | case3 k' v rest hne ih =>
    rw [List.map_cons, ih, List.map_cons]
    by_cases hk : k ∈ rest.map (·.1)
    · rw [if_pos hk, if_pos (List.mem_cons_of_mem _ hk)]
    · have new : k ∉ k' :: rest.map (·.1) := by simp [hk, Ne.symm hne]
      rw [if_neg hk, if_neg new, List.cons_append]

theorem nodup_putEntry (h : (m.map (·.1)).Nodup) :
    ((Snapshot.putEntry k value m).map (·.1)).Nodup := by
  rw [keys_putEntry]
  split
  · exact h
  · next new =>
    have apart : ∀ a ∈ m.map (·.1), ∀ b ∈ [k], a ≠ b := by
      rintro a ha b hb rfl
      exact new (List.mem_singleton.1 hb ▸ ha)
    exact List.nodup_append.2 ⟨h, by simp, apart⟩

namespace Snapshot

/-- Entries put into a map one after another: the last of a key replaces those before it. -/
theorem mapValue?_foldl_putEntry (entries : List ScopedVariable) (m : List (String × String))
    (key : String) :
    mapValue? (entries.foldl (fun m v => putEntry v.key v.value m) m) key =
      ((entries.reverse.find? (·.key == key)).map (·.value)).or (mapValue? m key) := by
  induction entries generalizing m with
  | nil => rfl
  | cons v rest ih =>
    rw [List.foldl_cons, ih, mapValue?_putEntry, List.reverse_cons, List.find?_append,
      Option.map_or, Option.or_assoc]
    by_cases hk : v.key = key <;> simp [hk]

theorem mapValue?_toMap (s : Snapshot) (key : String) :
    mapValue? s.toMap key = (s.entries.reverse.find? (·.key == key)).map (·.value) := by
  have put := mapValue?_foldl_putEntry s.entries [] key
  have nothing : mapValue? [] key = none := rfl
  rwa [nothing, Option.or_none] at put

theorem nodup_foldl_putEntry (entries : List ScopedVariable) (h : (m.map (·.1)).Nodup) :
    ((entries.foldl (fun m v => putEntry v.key v.value m) m).map (·.1)).Nodup := by
  induction entries generalizing m with
  | nil => exact h
  | cons v rest ih => exact ih (nodup_putEntry h)

theorem nodup_toMap (s : Snapshot) : (s.toMap.map (·.1)).Nodup :=
  nodup_foldl_putEntry s.entries .nil

/-- Where no key stands twice the first entry of a key is its last one. -/
theorem find?_reverse_of_distinct (h : (entries.map (·.key)).Nodup) (key : String) :
    entries.reverse.find? (·.key == key) = entries.find? (·.key == key) := by
  induction entries with
  | nil => rfl
  | cons v rest ih =>
    obtain ⟨new, distinct⟩ := List.nodup_cons.1 h
    rw [List.reverse_cons, List.find?_append, ih distinct, List.find?_cons]
    by_cases hk : v.key = key
    · have none : rest.find? (·.key == key) = none :=
        List.find?_eq_none.2 fun w hw he =>
          new (List.mem_map.2 ⟨w, hw, (beq_iff_eq.1 he).trans hk.symm⟩)
      simp [none, hk]
    · have other : (v.key == key) = false := by simpa using hk
      simp [other]

theorem Sound.get?_eq_mapValue? {s : Snapshot} (h : s.Sound) (key : String) :
    s.get? key = mapValue? s.toMap key := by
  rw [mapValue?_toMap, find?_reverse_of_distinct h.distinct]
  rfl

/-- Whatever scopes were pushed, a text is filled in from the snapshot as it is from its map, and
every key has in the map the value that it has in the snapshot. -/
theorem resolve_eq_resolveMap (scopes : List (String × List Variable)) :
    let s := empty.pushAll scopes
    (∀ text, s.resolve text = resolveMap s.toMap text) ∧
    (∀ key, s.get? key = mapValue? s.toMap key) ∧
    (s.toMap.map (·.1)).Nodup ∧
    ∀ (t : Snapshot) (key : String),
      t.get? key = (t.entries.find? (·.key == key)).map (·.value) ∧
      mapValue? t.toMap key = (t.entries.reverse.find? (·.key == key)).map (·.value) := by
  intro s
  have sound : s.Sound := sound_empty.pushAll scopes
  have same : s.get? = mapValue? s.toMap := funext sound.get?_eq_mapValue?
  refine ⟨fun text => ?_, sound.get?_eq_mapValue?, s.nodup_toMap, fun t key =>
    ⟨rfl, t.mapValue?_toMap key⟩⟩
  unfold resolve resolveMap
  rw [same]

/-- Entries that no pushes lead to can have a key twice, and then the two values differ. -/
example :
    let s : Snapshot := ⟨[⟨"host", "api", "Dev"⟩, ⟨"host", "localhost", "Config"⟩], ["host"]⟩
    s.get? "host" = some "api" ∧ mapValue? s.toMap "host" = some "localhost" := by decide

end Snapshot

end CollectionRunner
