import CollectionRunner.Proofs.Scope.Precedence
import CollectionRunner.Proofs.Variables.LastWrite

namespace CollectionRunner

open Snapshot (binding?)

theorem value_binding?_enabled (label : String) (values : List Variable) (key : String) :
    (binding? label (values.filter (·.enabled)) key).map (·.value) = Variables.get? values key := by
  unfold binding? Variables.get?
  rw [Option.map_map, List.find?_filter]
  simp only [Bool.decide_and, Bool.decide_eq_true]
  rfl

/-- What is read of the environment is in effect, and else what is in effect without it. -/
theorem Config.get?_snapshot (config : Config) (c : Collection) (breadcrumb : List String)
    (e : Option Environment) (key : String) :
    (config.snapshot c breadcrumb e).get? key =
      (e.bind fun e => Variables.get? e.values key).or
        ((config.snapshot c breadcrumb none).get? key) := by
  unfold Snapshot.get?
  rw [find?_snapshot, find?_snapshot]
  unfold boundAs?
  cases e with
  | none => rfl
  | some e =>
    rw [Option.map_or, Option.bind_some, value_binding?_enabled]
    rfl

theorem Snapshot.build_eq_snapshot (c : Collection) (breadcrumb : List String)
    (e : Option Environment) :
    Snapshot.build (some c) breadcrumb e = ({} : Config).snapshot c breadcrumb e := by
  simp [Config.snapshot, Config.variableEntries, Snapshot.push]

theorem value_binding? (label : String) (vars : List Variable) (key : String) :
    (binding? label vars key).map (·.value) = Variables.first? vars key := by
  unfold binding? Variables.first?
  rw [Option.map_map]
  rfl

/-- The first entry of a key in the collection comes before the folders and the settings. -/
theorem Config.get?_snapshot_of_first? {c : Collection} {key value : String}
    (h : Variables.first? c.vars key = some value) (config : Config) (breadcrumb : List String) :
    (config.snapshot c breadcrumb none).get? key = some value := by
  unfold Snapshot.get?
  rw [find?_snapshot]
  unfold boundAs?
  rw [Option.bind_none, Option.none_or, Option.map_or, value_binding?, h, Option.some_or]

theorem Snapshot.get?_build_collection (c : Collection) (key : String) :
    (Snapshot.build (some c) [] none).get? key = Variables.first? c.vars key := by
  rw [build_eq_snapshot, get?, Config.find?_snapshot]
  unfold Config.boundAs?
  simp [Collection.folderChain, folderChainFrom, value_binding?]

/-- A script reads of a key what a placeholder stands for exactly when the environment enables an
entry of the key, or when of the key's entries in the collection the first and the first enabled one
have one value, if there are any. -/
theorem VariableLists.lookup?_eq_get?_build_iff (c : Collection) (e : Environment)
    (key : String) :
    (⟨c.vars, e.values⟩ : VariableLists).lookup? key =
        (Snapshot.build (some c) [] (some e)).get? key ↔
      (∃ v ∈ e.values, v.enabled = true ∧ v.key = key) ∨
        Variables.get? c.vars key = Variables.first? c.vars key := by
  have read : (⟨c.vars, e.values⟩ : VariableLists).lookup? key =
      (Variables.get? e.values key).or (Variables.get? c.vars key) := by
    simp [lookup?, get?, ofScope]
  have stands : (Snapshot.build (some c) [] (some e)).get? key =
      (Variables.get? e.values key).or (Variables.first? c.vars key) := by
    rw [Snapshot.build_eq_snapshot, Config.get?_snapshot, ← Snapshot.build_eq_snapshot,
      Snapshot.get?_build_collection]
    rfl
  rw [read, stands]
  cases h : Variables.get? e.values key with
  | none =>
    have off := Variables.get?_eq_none_iff.1 h
    rw [Option.none_or, Option.none_or, or_iff_right]
    rintro ⟨v, hv, he, hk⟩
    exact off v hv he hk
  | some value =>
    have on : ∃ v ∈ e.values, v.enabled = true ∧ v.key = key := by
      by_contra hn
      have off : Variables.get? e.values key = none :=
        Variables.get?_eq_none_iff.2 fun v hv he hk => hn ⟨v, hv, he, hk⟩
      rw [off] at h
      cases h
    exact iff_of_true rfl (.inl on)

/-- A variable of a collection that is switched off stands for its value in a request, but a script
finds nothing under its key. -/
theorem VariableLists.lookup?_ne_get?_build_disabled :
    let v : Variable := { key := "token", value := "t", enabled := false }
    (⟨[v], []⟩ : VariableLists).lookup? "token" = none ∧
      (Snapshot.build (some { vars := [v] }) [] (some {})).get? "token" = some "t" := by
  decide

end CollectionRunner
