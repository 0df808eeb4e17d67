import CollectionRunner.Proofs.Collection.FolderChain
import CollectionRunner.Proofs.Scope.Snapshot
import Mathlib.Data.List.Nodup

namespace CollectionRunner

open Snapshot (binding?)

section Settings

variable {vars : List (String × String)}

private def keyLE (a b : String × String) : Bool := a.1 ≤ b.1

private theorem keyLE_trans (a b c : String × String) (hab : keyLE a b = true)
    (hbc : keyLE b c = true) : keyLE a c = true := by
  simp only [keyLE, decide_eq_true_eq] at *
  exact String.le_trans hab hbc

private theorem keyLE_total (a b : String × String) : (keyLE a b || keyLE b a) = true := by
  simpa [keyLE] using String.le_total a.1 b.1

/-- Sorting by key keeps the entries of one key in their order. -/
theorem filter_mergeSort_keyLE (vars : List (String × String)) (key : String) :
    (vars.mergeSort keyLE).filter (·.1 == key) = vars.filter (·.1 == key) := by
  have hp : (vars.filter (·.1 == key)).Pairwise (keyLE · ·) := by
    refine List.pairwise_of_forall_mem_list fun a ha b hb => ?_
    have ha' := beq_iff_eq.1 (List.mem_filter.1 ha).2
    have hb' := beq_iff_eq.1 (List.mem_filter.1 hb).2
    simp [keyLE, ha', hb']
  -- a sorted sublist stays one, and it cannot be a proper one for its length
  have hs := (List.sublist_mergeSort keyLE_trans keyLE_total hp List.filter_sublist).filter
    (·.1 == key)
  rw [List.filter_filter] at hs
  simp only [Bool.and_self] at hs
  exact (hs.eq_of_length ((List.mergeSort_perm vars keyLE).filter _).length_eq.symm).symm

theorem binding?_variableEntries (config : Config) (source key : String) :
    binding? source config.variableEntries key =
      (config.vars.lookup key).map fun value => ⟨key, value, source⟩ := by
  have hf : (config.vars.mergeSort keyLE).find? (·.1 == key) = config.vars.find? (·.1 == key) := by
    rw [← List.head?_filter, ← List.head?_filter, filter_mergeSort_keyLE]
  have hl (vars : List (String × String)) :
      (vars.find? (·.1 == key)).map (fun p => (⟨p.1, p.2, source⟩ : ScopedVariable)) =
        (vars.lookup key).map fun value => ⟨key, value, source⟩ := by
    induction vars with
    | nil => rfl
    | cons p vars ih =>
      obtain ⟨k, value⟩ := p
      by_cases hk : k = key
      · simp [hk]
      · have hk' : (key == k) = false := by simpa using Ne.symm hk
        rw [List.find?_cons_of_neg (by simpa using hk), List.lookup_cons, hk', ih]
  rw [← hl, ← hf]
  unfold binding? Config.variableEntries
  rw [List.find?_map, Option.map_map]
  rfl

/-- However the entries of the settings' map are listed, they come out the same. -/
theorem variableEntries_perm {config other : Config} (hp : config.vars.Perm other.vars)
    (hn : (config.vars.map (·.1)).Nodup) : config.variableEntries = other.variableEntries := by
  have sorted (vars) := List.pairwise_mergeSort keyLE_trans keyLE_total vars
  have hperm : (config.vars.mergeSort keyLE).Perm (other.vars.mergeSort keyLE) :=
    (List.mergeSort_perm _ _).trans (hp.trans (List.mergeSort_perm _ _).symm)
  refine congrArg (List.map _) (hperm.eq_of_pairwise ?_ (sorted _) (sorted _))
  intro a b ha hb hab hba
  have ha' : a ∈ config.vars := List.mem_mergeSort.1 ha
  have hb' : b ∈ config.vars := hp.mem_iff.2 (List.mem_mergeSort.1 hb)
  simp only [keyLE, decide_eq_true_eq] at hab hba
  exact List.inj_on_of_nodup_map hn ha' hb' (String.le_antisymm hab hba)

end Settings

/-- The label of a folder: the names of the folders that lead to it, and its own. -/
def folderLabel (chain : List Item) (depth : Nat) : String :=
  "Folder: " ++ String.intercalate " / " ((chain.take (depth + 1)).map (·.name))

/-- The scopes of a chain of folders, the outermost first. -/
def folderScopes (chain : List Item) : List (String × List Variable) :=
  chain.zipIdx.map fun p => (folderLabel chain p.2, p.1.vars)

/-- Every scope at a breadcrumb, in the order of priority. -/
def Config.scopes (config : Config) (c : Collection) (breadcrumb : List String)
    (e : Option Environment) : List (String × List Variable) :=
  e.toList.map (fun e => ("Environment: " ++ e.name, e.values.filter (·.enabled))) ++
    ("Collection: " ++ c.info.name, c.vars) ::
      (folderScopes (c.folderChain breadcrumb) ++ [("Config", config.variableEntries)])

theorem folderLabel_eq {chain : List Item} {breadcrumb : List String} {depth : Nat}
    (h : chain.map (·.name) = breadcrumb.take chain.length) (hd : depth < chain.length) :
    folderLabel chain depth =
      "Folder: " ++ String.intercalate " / " (breadcrumb.take (depth + 1)) := by
  unfold folderLabel
  rw [List.map_take, h, List.take_take, Nat.min_eq_left hd]

theorem pushFolders_eq {chain : List Item} {breadcrumb : List String}
    (h : chain.map (·.name) = breadcrumb.take chain.length) (s : Snapshot) :
    pushFolders s breadcrumb chain = s.pushAll (folderScopes chain) := by
  unfold Snapshot.pushAll folderScopes
  rw [List.foldl_map]
  refine List.foldl_ext _ _ _ fun s p hp => ?_
  rw [folderLabel_eq h (List.mem_zipIdx' hp).1]

/-- A snapshot holds what every scope has, pushed one after another. -/
theorem Config.snapshot_eq_pushAll (config : Config) (c : Collection) (breadcrumb : List String)
    (e : Option Environment) :
    config.snapshot c breadcrumb e = Snapshot.empty.pushAll (config.scopes c breadcrumb e) := by
  have hc : (c.folderChain breadcrumb).map (·.name) =
      breadcrumb.take (c.folderChain breadcrumb).length := names_folderChainFrom c.items breadcrumb
  unfold Config.snapshot Snapshot.build
  simp only [pushFolders_eq hc]
  cases e <;> simp [Config.scopes, Snapshot.pushAll]

/-- No two variables in effect have one key. -/
theorem Config.sound_snapshot (config : Config) (c : Collection) (breadcrumb : List String)
    (e : Option Environment) : (config.snapshot c breadcrumb e).Sound := by
  rw [config.snapshot_eq_pushAll]
  exact Snapshot.sound_empty.pushAll _

section Effect

variable (config : Config) (c : Collection) (breadcrumb : List String) (e : Option Environment)

/-- What a key is bound to: the first match in the environment's enabled variables, those of the
collection, those of the chain's folders, and those of the settings. -/
def Config.boundAs? (key : String) : Option ScopedVariable :=
  let chain := c.folderChain breadcrumb
  (e.bind fun e => binding? ("Environment: " ++ e.name) (e.values.filter (·.enabled)) key).or <|
    (binding? ("Collection: " ++ c.info.name) c.vars key).or <|
      (chain.zipIdx.findSome? fun p => binding? (folderLabel chain p.2) p.1.vars key).or <|
        (config.vars.lookup key).map fun value => ⟨key, value, "Config"⟩

theorem Config.find?_snapshot (key : String) :
    (config.snapshot c breadcrumb e).find? key = config.boundAs? c breadcrumb e key := by
  have he : ((e.toList.map fun e =>
      ("Environment: " ++ e.name, e.values.filter (·.enabled))).findSome?
        fun scope => binding? scope.1 scope.2 key) =
      e.bind fun e => binding? ("Environment: " ++ e.name) (e.values.filter (·.enabled)) key := by
    cases e <;> simp
  rw [config.snapshot_eq_pushAll, Snapshot.find?_pushAll Snapshot.sound_empty]
  unfold Config.scopes Config.boundAs? folderScopes
  rw [List.findSome?_append, he, List.findSome?_cons, List.findSome?_append, List.findSome?_map,
    List.findSome?_singleton, binding?_variableEntries]
  cases binding? ("Collection: " ++ c.info.name) c.vars key <;> rfl

theorem Config.boundAs?_eq_none_iff (key : String) :
    config.boundAs? c breadcrumb e key = none ↔
      (∀ env ∈ e, ∀ v ∈ env.values, v.enabled = true → v.key ≠ key) ∧
      (∀ v ∈ c.vars, v.key ≠ key) ∧
      (∀ folder ∈ c.folderChain breadcrumb, ∀ v ∈ folder.vars, v.key ≠ key) ∧
      ∀ p ∈ config.vars, p.1 ≠ key := by
  have folders : (c.folderChain breadcrumb).zipIdx.findSome? (fun p =>
      binding? (folderLabel (c.folderChain breadcrumb) p.2) p.1.vars key) = none ↔
      ∀ folder ∈ c.folderChain breadcrumb, ∀ v ∈ folder.vars, v.key ≠ key := by
    simp only [List.findSome?_eq_none_iff, Snapshot.binding?_eq_none_iff]
    refine ⟨fun h folder hf => ?_, fun h p hp => h p.1 (List.fst_mem_of_mem_zipIdx hp)⟩
    obtain ⟨i, hi⟩ := List.mem_iff_getElem?.1 hf
    exact h (folder, i) (List.mem_zipIdx_iff_getElem?.2 hi)
  have env : (e.bind fun e =>
      binding? ("Environment: " ++ e.name) (e.values.filter (·.enabled)) key) = none ↔
      ∀ env ∈ e, ∀ v ∈ env.values, v.enabled = true → v.key ≠ key := by
    simp [Option.bind_eq_none_iff, Snapshot.binding?_eq_none_iff]
  have settings : ((config.vars.lookup key).map fun value =>
      (⟨key, value, "Config"⟩ : ScopedVariable)) = none ↔ ∀ p ∈ config.vars, p.1 ≠ key := by
    rw [Option.map_eq_none_iff, List.lookup_eq_none_iff]
    exact forall₂_congr fun p _ => by rw [bne_iff_ne, ne_comm]
  unfold Config.boundAs?
  rw [Option.or_eq_none_iff, Option.or_eq_none_iff, Option.or_eq_none_iff, env, settings, folders,
    Snapshot.binding?_eq_none_iff]

theorem Config.snapshot_disabled (env : Environment) (v : Variable) (pre post : List Variable)
    (h : v.enabled = false) :
    config.snapshot c breadcrumb (some { env with values := pre ++ v :: post }) =
      config.snapshot c breadcrumb (some { env with values := pre ++ post }) := by
  simp only [config.snapshot_eq_pushAll, Config.scopes, Option.toList_some, List.map_cons,
    List.filter_append, List.filter_cons, h]
  rfl

theorem folderScopes_congr {chain other : List Item} (hn : chain.map (·.name) = other.map (·.name))
    (hv : chain.map (·.vars) = other.map (·.vars)) : folderScopes chain = folderScopes other := by
  have eq (chain : List Item) : folderScopes chain = (chain.map (·.vars)).zipIdx.map fun p =>
      ("Folder: " ++ String.intercalate " / " ((chain.map (·.name)).take (p.2 + 1)), p.1) := by
    unfold folderScopes folderLabel
    simp [List.zipIdx_map, List.map_take, Function.comp_def]
  rw [eq, eq, hn, hv]

/-- What counts of the folders are the variables of those that the breadcrumb leads through. -/
theorem Config.snapshot_off_chain {other : Collection} (hn : other.info.name = c.info.name)
    (hv : other.vars = c.vars)
    (hi : chainOnly breadcrumb other.items = chainOnly breadcrumb c.items) :
    config.snapshot other breadcrumb e = config.snapshot c breadcrumb e := by
  have vars : (other.folderChain breadcrumb).map (·.vars) =
      (c.folderChain breadcrumb).map (·.vars) := by
    unfold Collection.folderChain
    rw [← vars_folderChainFrom_chainOnly, hi, vars_folderChainFrom_chainOnly]
  have names : (other.folderChain breadcrumb).map (·.name) =
      (c.folderChain breadcrumb).map (·.name) := by
    have hl := congrArg List.length vars
    rw [List.length_map, List.length_map] at hl
    exact (names_folderChainFrom other.items breadcrumb).trans
      ((congrArg breadcrumb.take hl).trans (names_folderChainFrom c.items breadcrumb).symm)
  rw [config.snapshot_eq_pushAll, config.snapshot_eq_pushAll]
  unfold Config.scopes
  rw [hn, hv, folderScopes_congr names vars]

theorem Config.snapshot_perm {other : Config} (hn : (config.vars.map (·.1)).Nodup)
    (hp : config.vars.Perm other.vars) :
    other.snapshot c breadcrumb e = config.snapshot c breadcrumb e := by
  unfold Config.snapshot
  rw [variableEntries_perm hp hn]

/-- A key has the value, and the source, of the first match among the scopes. Labels stay within
the breadcrumb, and neither what is switched off in the environment, nor what hangs beside the chain
of folders, nor the order in which the settings' map is listed has an effect. -/
theorem Config.snapshot_precedence :
    (∀ key,
      (config.snapshot c breadcrumb e).get? key =
        (config.boundAs? c breadcrumb e key).map (·.value) ∧
      (config.snapshot c breadcrumb e).sourceOf? key =
        (config.boundAs? c breadcrumb e key).map (·.source)) ∧
    (∀ key, (config.snapshot c breadcrumb e).get? key = none ↔
      (∀ env ∈ e, ∀ v ∈ env.values, v.enabled = true → v.key ≠ key) ∧
      (∀ v ∈ c.vars, v.key ≠ key) ∧
      (∀ folder ∈ c.folderChain breadcrumb, ∀ v ∈ folder.vars, v.key ≠ key) ∧
      ∀ p ∈ config.vars, p.1 ≠ key) ∧
    (∀ depth < (c.folderChain breadcrumb).length, depth < breadcrumb.length ∧
      folderLabel (c.folderChain breadcrumb) depth =
        "Folder: " ++ String.intercalate " / " (breadcrumb.take (depth + 1))) ∧
    (∀ (env : Environment) (v : Variable) (pre post : List Variable), v.enabled = false →
      config.snapshot c breadcrumb (some { env with values := pre ++ v :: post }) =
        config.snapshot c breadcrumb (some { env with values := pre ++ post })) ∧
    (∀ other : Collection, other.info.name = c.info.name → other.vars = c.vars →
      chainOnly breadcrumb other.items = chainOnly breadcrumb c.items →
      config.snapshot other breadcrumb e = config.snapshot c breadcrumb e) ∧
    ∀ other : Config, (config.vars.map (·.1)).Nodup → config.vars.Perm other.vars →
      other.snapshot c breadcrumb e = config.snapshot c breadcrumb e := by
  refine ⟨fun key => ?_, fun key => ?_, fun depth hd => ?_, ?_, ?_, ?_⟩
  · unfold Snapshot.get? Snapshot.sourceOf?
    rw [config.find?_snapshot]
    exact ⟨rfl, rfl⟩
  · unfold Snapshot.get?
    rw [Option.map_eq_none_iff, config.find?_snapshot, config.boundAs?_eq_none_iff]
  · have hl := length_folderChainFrom_le c.items breadcrumb
    exact ⟨Nat.lt_of_lt_of_le hd hl, folderLabel_eq (names_folderChainFrom c.items breadcrumb) hd⟩
  · exact fun env v pre post h => config.snapshot_disabled c breadcrumb env v pre post h
  · exact fun other hn hv hi => config.snapshot_off_chain c breadcrumb e hn hv hi
  · exact fun other hn hp => config.snapshot_perm c breadcrumb e hn hp

end Effect

/-- A collection of two folders, of which the second has variables. -/
def twoFolders (vars : List Variable) : Collection where
  items := [{ name := "Users", items := some [] }, { name := "Orders", items := some [], vars }]

/-- At the first folder nothing is seen of a switched-off variable, of the second folder and of the
order of the settings. -/
theorem Config.snapshot_precedence_twoFolders :
    let stale : Variable := { key := "token", value := "stale", enabled := false }
    let fresh : Variable := { key := "token", value := "fresh" }
    let config : Config := { vars := [("a", "1"), ("b", "2")] }
    let turned : Config := { vars := [("b", "2"), ("a", "1")] }
    (stale.enabled = false ∧
      config.snapshot (twoFolders []) ["Users"] (some { values := [stale, fresh] }) =
        config.snapshot (twoFolders []) ["Users"] (some { values := [fresh] })) ∧
    (chainOnly ["Users"] (twoFolders [fresh]).items = chainOnly ["Users"] (twoFolders []).items ∧
      config.snapshot (twoFolders [fresh]) ["Users"] none =
        config.snapshot (twoFolders []) ["Users"] none) ∧
    ((config.vars.map (·.1)).Nodup ∧ config.vars.Perm turned.vars ∧
      turned.snapshot (twoFolders []) ["Users"] none =
        config.snapshot (twoFolders []) ["Users"] none) := by
  intro stale fresh config turned
  have h := config.snapshot_precedence (twoFolders []) ["Users"]
  obtain ⟨-, -, -, disabled, -⟩ := h none
  obtain ⟨-, -, -, -, beside, listed⟩ := h none
  have chain : chainOnly ["Users"] (twoFolders [fresh]).items =
      chainOnly ["Users"] (twoFolders []).items := by
    simp [twoFolders, chainOnly, bareAll, Item.bare, Item.isFolder, Item.children]
  have distinct : (config.vars.map (·.1)).Nodup := by decide
  have perm : config.vars.Perm turned.vars := by decide
  exact ⟨⟨rfl, disabled {} stale [] [fresh] rfl⟩, ⟨chain, beside _ rfl rfl chain⟩,
    distinct, perm, listed _ distinct perm⟩

end CollectionRunner
