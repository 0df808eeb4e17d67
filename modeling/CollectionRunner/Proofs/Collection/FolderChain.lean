import CollectionRunner.Collection.Tree

namespace CollectionRunner

theorem folderNamed?_some {name : String} {items : List Item} {folder : Item}
    (h : folderNamed? name items = some folder) :
    folder ∈ items ∧ folder.isFolder = true ∧ folder.name = name := by
  have hp := List.find?_some h
  simp only [Bool.and_eq_true, beq_iff_eq] at hp
  exact ⟨List.mem_of_find?_eq_some h, hp⟩

/-- The folders of a chain have the names with which the breadcrumb begins. -/
theorem names_folderChainFrom (items : List Item) (names : List String) :
    (folderChainFrom items names).map (·.name) =
      names.take (folderChainFrom items names).length := by
  induction names generalizing items with
  | nil => rfl
  | cons name names ih =>
    rw [folderChainFrom]
    cases h : folderNamed? name items with
    | none => rfl
    | some folder =>
      simp only [List.map_cons, List.length_cons, List.take_succ_cons]
      rw [(folderNamed?_some h).2.2, ih]

theorem length_folderChainFrom_le (items : List Item) (names : List String) :
    (folderChainFrom items names).length ≤ names.length := by
  have h := congrArg List.length (names_folderChainFrom items names)
  rw [List.length_map, List.length_take] at h
  omega

mutual

/-- An item without its variables and those of the items in it. -/
def Item.bare : Item → Item
  | ⟨name, some items, request, _, events⟩ => ⟨name, some (bareAll items), request, [], events⟩
  | ⟨name, none, request, _, events⟩ => ⟨name, none, request, [], events⟩

def bareAll : List Item → List Item
  | [] => []
  | i :: rest => i.bare :: bareAll rest

end

@[simp] theorem Item.isFolder_bare (i : Item) : i.bare.isFolder = i.isFolder := by
  obtain ⟨name, _ | items, request, vars, events⟩ := i <;> rfl

@[simp] theorem Item.name_bare (i : Item) : i.bare.name = i.name := by
  obtain ⟨name, _ | items, request, vars, events⟩ := i <;> rfl

/-- Items of which only the folders have kept their variables that the names lead through. -/
def chainOnly : List String → List Item → List Item
  | [], items => bareAll items
  | _, [] => []
  | name :: names, i :: rest =>
    if i.isFolder && i.name == name then
      { i with items := some (chainOnly names i.children) } :: bareAll rest
    else i.bare :: chainOnly (name :: names) rest
termination_by names items => (names.length, items.length)

theorem folderNamed?_chainOnly (name : String) (names : List String) (items : List Item) :
    folderNamed? name (chainOnly (name :: names) items) =
      (folderNamed? name items).map fun folder =>
        { folder with items := some (chainOnly names folder.children) } := by
  unfold folderNamed?
  induction items with
  | nil => simp [chainOnly]
  | cons i rest ih =>
    rw [chainOnly]
    by_cases h : (i.isFolder && i.name == name) = true
    · have hn : i.name = name := beq_iff_eq.1 (Bool.and_eq_true_iff.1 h).2
      rw [if_pos h, List.find?_cons, List.find?_cons, h]
      simp [Item.isFolder, hn]
    · rw [if_neg h, List.find?_cons, List.find?_cons, Item.isFolder_bare, Item.name_bare,
        eq_false_of_ne_true h, ih]

/-- Variables beside the chain do not get into it. -/
theorem vars_folderChainFrom_chainOnly (names : List String) (items : List Item) :
    (folderChainFrom (chainOnly names items) names).map (·.vars) =
      (folderChainFrom items names).map (·.vars) := by
  induction names generalizing items with
  | nil => rfl
  | cons name names ih =>
    rw [folderChainFrom, folderChainFrom, folderNamed?_chainOnly]
    cases folderNamed? name items with
    | none => rfl
    | some folder => exact congrArg (folder.vars :: ·) (ih folder.children)

end CollectionRunner
