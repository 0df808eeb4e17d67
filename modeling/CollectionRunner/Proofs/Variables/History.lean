import CollectionRunner.Proofs.Variables.LastWrite

namespace CollectionRunner

/-- A variable that is enabled and given a value, if there is one. -/
def Variable.given (v : Variable) : Option String → Variable
  | none => v
  | some value => { v with value, enabled := true }

theorem Variable.key_given (v : Variable) (value? : Option String) :
    (v.given value?).key = v.key := by
  cases value? <;> rfl

namespace Variables

variable {key value : String} {list front back : List Variable}

theorem set_append_of_mem (h : key ∈ keys front) :
    set key value (front ++ back) = set key value front ++ back := by
  induction front with
  | nil => cases h
  | cons v front ih =>
    rw [List.cons_append, set, set]
    split
    · rfl
    · rename_i hv
      rw [ih ((List.mem_cons.1 h).resolve_left (Ne.symm hv)), List.cons_append]

theorem set_append_of_notMem (h : key ∉ keys front) :
    set key value (front ++ back) = front ++ set key value back := by
  induction front with
  | nil => rfl
  | cons v front ih =>
    obtain ⟨hv, hr⟩ : key ≠ v.key ∧ key ∉ keys front := by simpa [keys] using h
    rw [List.cons_append, set, if_neg hv.symm, ih hr, List.cons_append]

theorem getElem?_keys (list : List Variable) (i : Nat) :
    (keys list)[i]? = list[i]?.map (·.key) := List.getElem?_map

theorem keys_take (list : List Variable) (i : Nat) : keys (list.take i) = (keys list).take i :=
  List.map_take

/-- The one entry that is changed is the first of its key. -/
theorem getElem?_set_of_mem (h : key ∈ keys list) (i : Nat) :
    (set key value list)[i]? = list[i]?.map fun v =>
      if v.key = key ∧ key ∉ keys (list.take i) then v.given value else v := by
  induction list generalizing i with
  | nil => cases h
  | cons v rest ih =>
    rw [set]
    by_cases hv : v.key = key
    · rw [if_pos hv]
      cases i <;> simp [keys, hv, Variable.given]
    · rw [if_neg hv]
      cases i with
      | zero => simp [hv]
      | succ i =>
        have hr : key ∈ keys rest := (List.mem_cons.1 h).resolve_left (Ne.symm hv)
        have hk : key ∉ keys ((v :: rest).take (i + 1)) ↔ key ∉ keys (rest.take i) := by
          simp [keys, Ne.symm hv]
        simp only [hk, List.getElem?_cons_succ, ih hr]

/-- The list in which the first entry of each key with a last value is enabled and given it. -/
def overwritten (last : String → Option String) (list : List Variable) : List Variable :=
  list.mapIdx fun i v => if v.key ∈ keys (list.take i) then v else v.given (last v.key)

/-- The last value of each key after one more write. -/
def wrote (key value : String) (last : String → Option String) (k : String) : Option String :=
  if k = key then some value else last k

section Overwritten

variable (last : String → Option String)

theorem keys_overwritten (list : List Variable) : keys (overwritten last list) = keys list := by
  refine List.ext_getElem? fun i => ?_
  rw [getElem?_keys, getElem?_keys, overwritten, List.getElem?_mapIdx, Option.map_map]
  refine Option.map_congr fun v _ => ?_
  rw [Function.comp_apply, apply_ite Variable.key, Variable.key_given, ite_self]

theorem keys_take_overwritten (list : List Variable) (i : Nat) :
    keys ((overwritten last list).take i) = keys (list.take i) := by
  rw [keys_take, keys_take, keys_overwritten]

theorem set_overwritten (h : key ∈ keys list) :
    set key value (overwritten last list) = overwritten (wrote key value last) list := by
  refine List.ext_getElem? fun i => ?_
  rw [getElem?_set_of_mem (by rwa [keys_overwritten]), keys_take_overwritten]
  simp only [overwritten, List.getElem?_mapIdx, Option.map_map]
  refine Option.map_congr fun v _ => ?_
  rw [Function.comp_apply]
  unfold wrote
  by_cases hp : v.key ∈ keys (list.take i)
  · have older : ¬ (v.key = key ∧ key ∉ keys (list.take i)) := fun hv => hv.2 (hv.1 ▸ hp)
    rw [if_pos hp, if_pos hp, if_neg older]
  · rw [if_neg hp, if_neg hp, Variable.key_given]
    by_cases hv : v.key = key
    · rw [if_pos ⟨hv, hv ▸ hp⟩, if_pos hv]
      cases last v.key <;> rfl
    · rw [if_neg fun hw => hv hw.1, if_neg hv]

theorem overwritten_wrote_of_notMem (h : key ∉ keys list) :
    overwritten (wrote key value last) list = overwritten last list := by
  refine List.mapIdx_eq_mapIdx_iff.2 fun i hi => ?_
  have hv : list[i].key ≠ key := fun hv => h (hv ▸ List.mem_map_of_mem (List.getElem_mem hi))
  unfold wrote
  rw [if_neg hv]

end Overwritten

/-- The keys that were written and that no entry had, in the order of their first writes. -/
def newKeys (written : List String) (list : List Variable) : List String :=
  (written.filter fun key => key ∉ keys list).eraseDups

/-- Entries for keys, each with the value that is its last. -/
def newEntries (last : String → Option String) (ks : List String) : List Variable :=
  ks.map fun key => { key, value := (last key).getD "" }

theorem newEntries_wrote_of_notMem (last : String → Option String) {ks : List String}
    (h : key ∉ ks) : newEntries (wrote key value last) ks = newEntries last ks := by
  refine List.map_congr_left fun k hk => ?_
  unfold wrote
  rw [if_neg fun he : k = key => h (he ▸ hk)]

/-- Among new entries a key is set where it is, or else behind them. -/
theorem set_newEntries (last : String → Option String) {ks : List String} (h : ks.Nodup) :
    set key value (newEntries last ks) =
      newEntries (wrote key value last) (if key ∈ ks then ks else ks ++ [key]) := by
  induction ks with
  | nil => simp [newEntries, set, wrote]
  | cons k ks ih =>
    obtain ⟨hk, hn⟩ := List.nodup_cons.1 h
    change set key value ({ key := k, value := (last k).getD "" } :: newEntries last ks) = _
    rw [set]
    by_cases he : k = key
    · subst he
      have same : newEntries (wrote k value last) ks = newEntries last ks :=
        newEntries_wrote_of_notMem last hk
      rw [if_pos rfl, if_pos List.mem_cons_self, ← same]
      simp [newEntries, wrote]
    · have tail : (if key ∈ k :: ks then k :: ks else k :: ks ++ [key]) =
          k :: if key ∈ ks then ks else ks ++ [key] := by
        split <;> simp_all [Ne.symm he]
      rw [if_neg he, ih hn, tail]
      simp [newEntries, wrote, he]

theorem eraseDups_concat (ks : List String) (k : String) :
    (ks ++ [k]).eraseDups = if k ∈ ks then ks.eraseDups else ks.eraseDups ++ [k] := by
  rw [List.eraseDups_append]
  by_cases h : k ∈ ks <;> simp [List.removeAll, h, List.eraseDups_cons]

theorem nodup_eraseDups (ks : List String) : ks.eraseDups.Nodup := by
  induction ks using List.reverseRecOn with
  | nil => exact List.nodup_nil
  | append_singleton ks k ih =>
    rw [eraseDups_concat]
    split
    · exact ih
    · rename_i h
      exact ih.append (List.nodup_singleton k) (by simpa using h)

theorem nodup_newKeys (written : List String) (list : List Variable) :
    (newKeys written list).Nodup := nodup_eraseDups _

theorem newKeys_concat_of_mem (h : key ∈ keys list) (written : List String) :
    newKeys (written ++ [key]) list = newKeys written list := by
  simp [newKeys, h]

theorem newKeys_concat_of_notMem (h : key ∉ keys list) (written : List String) :
    newKeys (written ++ [key]) list =
      if key ∈ newKeys written list then newKeys written list
      else newKeys written list ++ [key] := by
  have there : key ∈ newKeys written list ↔ key ∈ written.filter fun k => k ∉ keys list :=
    List.mem_eraseDups
  simp only [there]
  rw [newKeys, List.filter_append, List.filter_cons_of_pos (by simpa using h), List.filter_nil,
    eraseDups_concat]
  rfl

theorem notMem_newKeys (h : key ∈ keys list) (written : List String) :
    key ∉ newKeys written list := by
  simp [newKeys, h]

/-- A list after writes to keys, given in order, of which each has a last value. -/
def rewritten (last : String → Option String) (written : List String) (list : List Variable) :
    List Variable :=
  overwritten last list ++ newEntries last (newKeys written list)

/-- A write to a key that an entry had changes the first part of a list, and any other the last. -/
theorem set_rewritten (last : String → Option String) (written : List String)
    (list : List Variable) :
    set key value (rewritten last written list) =
      rewritten (wrote key value last) (written ++ [key]) list := by
  unfold rewritten
  by_cases h : key ∈ keys list
  · rw [set_append_of_mem (by rwa [keys_overwritten]), set_overwritten last h,
      newKeys_concat_of_mem h, newEntries_wrote_of_notMem last (notMem_newKeys h written)]
  · rw [set_append_of_notMem (by rwa [keys_overwritten]),
      set_newEntries last (nodup_newKeys written list), overwritten_wrote_of_notMem last h,
      newKeys_concat_of_notMem h]

theorem rewritten_nil (list : List Variable) : rewritten (fun _ => none) [] list = list := by
  have same : overwritten (fun _ => none) list = list := by
    refine List.ext_getElem? fun i => ?_
    simp [overwritten, Variable.given]
  rw [rewritten, same]
  exact list.append_nil

end Variables

/-- The keys that were written in a scope, in order. -/
def writtenKeys (scope : VariableScope) (ws : List Write) : List String :=
  (ws.filter (·.scope = scope)).map (·.key)

theorem isSome_lastWrite? {scope : VariableScope} {key : String} {ws : List Write} :
    (lastWrite? scope key ws).isSome = true ↔ key ∈ writtenKeys scope ws := by
  simp [lastWrite?, writtenKeys, and_assoc]

theorem lastWrite?_concat_eq_wrote {scope : VariableScope} {w : Write} (h : w.scope = scope)
    (ws : List Write) : (lastWrite? scope · (ws ++ [w])) =
      Variables.wrote w.key w.value (lastWrite? scope · ws) := by
  funext key
  rw [lastWrite?_concat]
  simp [Variables.wrote, h, eq_comm]

namespace VariableLists

theorem ofScope_setAll (l : VariableLists) (ws : List Write) (scope : VariableScope) :
    (l.setAll ws).ofScope scope =
      Variables.rewritten (lastWrite? scope · ws) (writtenKeys scope ws) (l.ofScope scope) := by
  induction ws using List.reverseRecOn with
  | nil => exact (Variables.rewritten_nil _).symm
  | append_singleton ws w ih =>
    rw [setAll_concat, ofScope_set, ih]
    unfold writtenKeys
    by_cases h : w.scope = scope
    · rw [if_pos h, Variables.set_rewritten, lastWrite?_concat_eq_wrote h]
      simp [List.filter_append, h]
    · rw [if_neg h]
      simp [List.filter_append, lastWrite?_concat, h]

/-- Whatever was written, a list is read like a map: a key has its last value, or else that of its
first enabled entry, and a further write tells only of its own key. The list itself is what it was
but for the first entry of each key that was written, and behind it stands one enabled entry for
each new key, in the order in which they were first written. -/
theorem setAll_isMap (l : VariableLists) (ws : List Write) (scope : VariableScope) :
    let old := l.ofScope scope
    let new := (l.setAll ws).ofScope scope
    let last := fun key => lastWrite? scope key ws
    let written := writtenKeys scope ws
    (∀ key, (last key).isSome = true ↔ key ∈ written) ∧
    (∀ key, Variables.get? new key =
      (last key).or ((old.find? fun v => v.enabled && v.key == key).map (·.value))) ∧
    (∀ w key, Variables.get? (((l.setAll ws).set w).ofScope scope) key =
      if w.scope = scope ∧ w.key = key then some w.value else Variables.get? new key) ∧
    new = Variables.overwritten last old ++
      Variables.newEntries last (Variables.newKeys written old) := by
  refine ⟨fun key => isSome_lastWrite?, fun key => l.get?_setAll ws scope key, fun w key => ?_,
    l.ofScope_setAll ws scope⟩
  rw [ofScope_set]
  by_cases h : w.scope = scope
  · rw [if_pos h, Variables.get?_set]
    simp [h, eq_comm]
  · rw [if_neg h, if_neg fun hw => h hw.1]

/-- Of two entries of a key the first is enabled and changed, though the second was the one to be
read, and a new key comes last. -/
example :
    (VariableLists.setAll
      ⟨[{ key := "a", value := "1", enabled := false }, { key := "a", value := "2" }], []⟩
      [⟨.collection, "b", "x"⟩, ⟨.collection, "a", "3"⟩]).collection =
    [{ key := "a", value := "3" }, { key := "a", value := "2" }, { key := "b", value := "x" }] := by
  decide

end VariableLists

end CollectionRunner
