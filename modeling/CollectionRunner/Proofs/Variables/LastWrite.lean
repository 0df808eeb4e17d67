import CollectionRunner.Proofs.Variables.Setting
import Mathlib.Data.List.Induction

namespace CollectionRunner

namespace Variables

/-- The value of the first entry of a key, whether it is enabled or not. -/
def first? (list : List Variable) (key : String) : Option String :=
  (list.find? (·.key == key)).map (·.value)

/-- It is the value that is read when every entry is enabled. -/
theorem first?_eq_get? (list : List Variable) (key : String) :
    first? list key = get? (list.map fun v => { v with enabled := true }) key := by
  simp [first?, get?, List.find?_map, Function.comp_def]

theorem map_enable_set (key value : String) (list : List Variable) :
    (set key value list).map (fun v => { v with enabled := true }) =
      set key value (list.map fun v => { v with enabled := true }) := by
  induction list with
  | nil => rfl
  | cons v rest ih =>
    rw [set, List.map_cons, set]
    split
    · rfl
    · rw [List.map_cons, ih]

theorem first?_set (key value : String) (list : List Variable) (k : String) :
    first? (set key value list) k = if k = key then some value else first? list k := by
  rw [first?_eq_get?, first?_eq_get?, map_enable_set, get?_set]

theorem get?_eq_none_iff {list : List Variable} {key : String} :
    get? list key = none ↔ ∀ v ∈ list, v.enabled = true → v.key ≠ key := by
  simp [get?]

end Variables

/-- The value that was written last to a key of a scope. -/
def lastWrite? (scope : VariableScope) (key : String) (ws : List Write) : Option String :=
  ((ws.filter fun w => w.scope = scope ∧ w.key = key).getLast?).map (·.value)

theorem lastWrite?_concat (scope : VariableScope) (key : String) (ws : List Write) (w : Write) :
    lastWrite? scope key (ws ++ [w]) =
      if w.scope = scope ∧ w.key = key then some w.value else lastWrite? scope key ws := by
  unfold lastWrite?
  by_cases h : w.scope = scope ∧ w.key = key <;> simp [List.filter_append, h]

namespace VariableLists

theorem setAll_concat (l : VariableLists) (ws : List Write) (w : Write) :
    l.setAll (ws ++ [w]) = (l.setAll ws).set w := by
  simp [setAll]

theorem ofScope_set (l : VariableLists) (w : Write) (scope : VariableScope) :
    (l.set w).ofScope scope =
      if w.scope = scope then Variables.set w.key w.value (l.ofScope scope)
      else l.ofScope scope := by
  obtain ⟨on, key, value⟩ := w
  cases on <;> cases scope <;> rfl

/-- Any way to read a key that follows each single write follows all of them. -/
theorem read_setAll {read : List Variable → String → Option String}
    (h : ∀ key value list k,
      read (Variables.set key value list) k = if k = key then some value else read list k)
    (l : VariableLists) (ws : List Write) (scope : VariableScope) (key : String) :
    read ((l.setAll ws).ofScope scope) key =
      (lastWrite? scope key ws).or (read (l.ofScope scope) key) := by
  induction ws using List.reverseRecOn with
  | nil => rfl
  | append_singleton ws w ih =>
    rw [setAll_concat, ofScope_set, lastWrite?_concat]
    by_cases hs : w.scope = scope
    · rw [if_pos hs, h, ih]
      by_cases hk : w.key = key
      · simp [hs, hk]
      · simp [hk, Ne.symm hk]
    · rw [if_neg hs, ih, if_neg fun hw => hs hw.1]

theorem get?_setAll (l : VariableLists) (ws : List Write) (scope : VariableScope) (key : String) :
    (l.setAll ws).get? scope key = (lastWrite? scope key ws).or (l.get? scope key) :=
  read_setAll Variables.get?_set l ws scope key

theorem first?_setAll (l : VariableLists) (ws : List Write) (scope : VariableScope)
    (key : String) :
    Variables.first? ((l.setAll ws).ofScope scope) key =
      (lastWrite? scope key ws).or (Variables.first? (l.ofScope scope) key) :=
  read_setAll Variables.first?_set l ws scope key

end VariableLists

end CollectionRunner
