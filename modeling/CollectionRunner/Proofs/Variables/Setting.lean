import CollectionRunner.Variables
import Mathlib.Data.List.Nodup

namespace CollectionRunner

/-- What stays of a variable that is set: its key and its type, and it is not switched off. -/
structure Variable.Kept (v v' : Variable) : Prop where
  key : v'.key = v.key
  kind : v'.kind = v.kind
  enabled : v.enabled = true → v'.enabled = true

theorem Variable.Kept.refl (v : Variable) : v.Kept v := ⟨rfl, rfl, id⟩

theorem Variable.Kept.trans {u v w : Variable} (h : u.Kept v) (h' : v.Kept w) : u.Kept w :=
  ⟨h'.key.trans h.key, h'.kind.trans h.kind, h'.enabled ∘ h.enabled⟩

namespace Variables

variable {key value : String} {list old new later : List Variable}

theorem get?_cons (v : Variable) (rest : List Variable) (key : String) :
    get? (v :: rest) key =
      if v.enabled = true ∧ v.key = key then some v.value else get? rest key := by
  unfold get?
  by_cases h : v.enabled = true ∧ v.key = key
  · rw [if_pos h, List.find?_cons_of_pos (by simpa using h)]
    rfl
  · rw [if_neg h, List.find?_cons_of_neg (by simpa using h)]

/-- A key that was set has the value that it was set to: a disabled entry that is set is enabled, so
of the entries behind it none counts. -/
theorem get?_set (key value : String) (list : List Variable) (k : String) :
    get? (set key value list) k = if k = key then some value else get? list k := by
  induction list with
  | nil =>
    rw [set, get?_cons]
    simp [eq_comm]
  | cons v rest ih =>
    rw [set]
    split
    · rename_i hv
      rw [get?_cons, get?_cons]
      by_cases h : k = key
      · simp [h, hv]
      · simp [h, hv, Ne.symm h]
    · rename_i hv
      rw [get?_cons, get?_cons, ih]
      by_cases h : k = key
      · simp [h, hv]
      · simp [h]

/-- Entries that are switched off have no part in what is read. -/
theorem get?_filter_enabled (list : List Variable) (key : String) :
    get? (list.filter (·.enabled)) key = get? list key := by
  induction list with
  | nil => rfl
  | cons v rest ih =>
    cases h : v.enabled with
    | true => rw [List.filter_cons_of_pos h, get?_cons, get?_cons, ih]
    | false =>
      rw [List.filter_cons_of_neg (by simp [h]), get?_cons, ih]
      simp [h]

/-- The keys of a list, at their places. -/
def keys (list : List Variable) : List String := list.map (·.key)

/-- A list after variables were set in it. -/
structure Grown (old new : List Variable) : Prop where
  keys : keys old <+: keys new
  kept : ∀ (i : Nat) (v : Variable), old[i]? = some v → ∃ v', new[i]? = some v' ∧ v.Kept v'
  added : ∀ (i : Nat) (v : Variable), new[i]? = some v → old.length ≤ i →
    v.enabled = true ∧ v.kind = none ∧ v.key ∉ Variables.keys old
  nodup : (Variables.keys old).Nodup → (Variables.keys new).Nodup

namespace Grown

theorem refl (list : List Variable) : Grown list list where
  keys := List.prefix_rfl
  kept _ v h := ⟨v, h, .refl v⟩
  added _ _ h hi := absurd (List.getElem?_eq_some_iff.1 h).1 (Nat.not_lt.2 hi)
  nodup := id

theorem trans (h : Grown old new) (h' : Grown new later) : Grown old later where
  keys := h.keys.trans h'.keys
  kept i v hv := by
    obtain ⟨w, hw, hk⟩ := h.kept i v hv
    obtain ⟨x, hx, hk'⟩ := h'.kept i w hw
    exact ⟨x, hx, hk.trans hk'⟩
  added i x hx hi := by
    -- what is new in the end was added first and kept since, or added later
    rcases Nat.lt_or_ge i new.length with hlt | hge
    · obtain ⟨he, ht, hk⟩ := h.added i _ (List.getElem?_eq_getElem hlt) hi
      obtain ⟨x', hx', kept⟩ := h'.kept i _ (List.getElem?_eq_getElem hlt)
      obtain rfl := Option.some.inj (hx'.symm.trans hx)
      exact ⟨kept.enabled he, kept.kind.trans ht, kept.key ▸ hk⟩
    · obtain ⟨he, ht, hk⟩ := h'.added i x hx hge
      exact ⟨he, ht, fun hm => hk (h.keys.subset hm)⟩
  nodup := h'.nodup ∘ h.nodup

end Grown

theorem set_of_notMem (h : key ∉ keys list) :
    set key value list = list ++ [({ key, value } : Variable)] := by
  induction list with
  | nil => rfl
  | cons v rest ih =>
    obtain ⟨hv, hr⟩ : key ≠ v.key ∧ key ∉ keys rest := by simpa [keys] using h
    rw [set, if_neg hv.symm, ih hr, List.cons_append]

theorem keys_set_of_mem (h : key ∈ keys list) : keys (set key value list) = keys list := by
  induction list with
  | nil => cases h
  | cons v rest ih =>
    rw [set]
    split
    · rfl
    · rename_i hk
      have hr : key ∈ keys rest := (List.mem_cons.1 h).resolve_left (Ne.symm hk)
      exact congrArg (v.key :: ·) (ih hr)

theorem kept_set (key value : String) {i : Nat} {v : Variable} (h : list[i]? = some v) :
    ∃ v', (set key value list)[i]? = some v' ∧ v.Kept v' := by
  induction list generalizing i with
  | nil => cases h
  | cons w rest ih =>
    rw [set]
    split
    · cases i with
      | zero =>
        obtain rfl := Option.some.inj h
        exact ⟨_, rfl, rfl, rfl, fun _ => rfl⟩
      | succ i => exact ⟨v, h, .refl v⟩
    · cases i with
      | zero => exact ⟨v, h, .refl v⟩
      | succ i => exact ih h

/-- Setting a variable changes the first entry of its key, or else adds one at the end. -/
theorem grown_set (key value : String) (list : List Variable) :
    Grown list (set key value list) := by
  by_cases h : key ∈ keys list
  · have hk : keys (set key value list) = keys list := keys_set_of_mem h
    have hl : (set key value list).length = list.length := by
      simpa [keys] using congrArg List.length hk
    refine ⟨hk ▸ List.prefix_rfl, fun _ _ => kept_set key value, fun i v hv hi => ?_, hk ▸ id⟩
    exact absurd (List.getElem?_eq_some_iff.1 hv).1 (Nat.not_lt.2 (hl ▸ hi))
  · have hk : keys (set key value list) = keys list ++ [key] := by
      rw [set_of_notMem h]
      exact List.map_append
    refine ⟨hk ▸ List.prefix_append _ _, fun _ _ => kept_set key value, fun i v hv hi => ?_,
      fun hn => ?_⟩
    · rw [set_of_notMem h, List.getElem?_append_right hi] at hv
      obtain rfl := List.mem_singleton.1 (List.mem_of_getElem? hv)
      exact ⟨rfl, rfl, h⟩
    · rw [hk]
      exact hn.append (List.nodup_singleton key) (by simpa using h)

end Variables

namespace VariableLists

/-- What is read of the lists after a variable was set in them. -/
theorem view_set (l : VariableLists) (w : Write) : (l.set w).view = l.view.after w := by
  obtain ⟨on, key, value⟩ := w
  refine congrArg View.mk (funext fun scope => funext fun k => ?_)
  cases on <;> cases scope
  case collection.collection =>
    exact (Variables.get?_set key value _ k).trans (by simp [view, get?, ofScope])
  case environment.environment =>
    exact (Variables.get?_set key value _ k).trans (by simp [view, get?, ofScope])
  all_goals exact (if_neg (by simp)).symm

/-- However many variables are set in whichever scope, each of the lists has grown. -/
theorem grown_setAll (l : VariableLists) (ws : List Write) (scope : VariableScope) :
    Variables.Grown (l.ofScope scope) ((l.setAll ws).ofScope scope) := by
  induction ws generalizing l with
  | nil => exact .refl _
  | cons w ws ih =>
    refine .trans ?_ (ih (l.set w))
    obtain ⟨on, key, value⟩ := w
    cases on <;> cases scope
    case collection.collection => exact Variables.grown_set key value _
    case environment.environment => exact Variables.grown_set key value _
    all_goals exact .refl _

end VariableLists

end CollectionRunner
