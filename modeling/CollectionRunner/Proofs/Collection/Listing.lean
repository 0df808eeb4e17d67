import CollectionRunner.Proofs.Collection.FolderChain
import Mathlib.Data.List.Nodup

namespace CollectionRunner

/-- What stands at a position inside an item, with the names of the folders on the way, the item's
own among them: each number of a position is a place among siblings. -/
def Item.at? (i : Item) : List Nat → Option (List String × Item)
  | [] => some ([], i)
  | n :: p => (i.items.bind (·[n]?)).bind fun child =>
    (child.at? p).map fun e => (i.name :: e.1, e.2)

/-- What stands at a position among items and inside them. -/
def itemAt? (items : List Item) : List Nat → Option (List String × Item)
  | [] => none
  | n :: p => items[n]?.bind (·.at? p)

theorem Item.at?_cons (i : Item) (n : Nat) (p : List Nat) :
    i.at? (n :: p) = i.items.bind fun items =>
      (itemAt? items (n :: p)).map fun e => (i.name :: e.1, e.2) := by
  rw [at?]
  cases i.items with
  | none => rfl
  | some items => exact Option.map_bind.symm

mutual

/-- The positions of the requests inside an item. -/
def Item.places : Item → List (List Nat)
  | ⟨_, some items, _, _, _⟩ => placesFrom 0 items
  | ⟨_, none, some _, _, _⟩ => [[]]
  | ⟨_, none, none, _, _⟩ => []

/-- The positions of the requests among items of which the first has the given place. -/
def placesFrom (n : Nat) : List Item → List (List Nat)
  | [] => []
  | i :: rest => i.places.map (n :: ·) ++ placesFrom (n + 1) rest

end

theorem mem_placesFrom {n : Nat} {items : List Item} {p : List Nat} :
    p ∈ placesFrom n items ↔
      ∃ k i q, items[k]? = some i ∧ q ∈ i.places ∧ p = (n + k) :: q := by
  induction items generalizing n with
  | nil => simp [placesFrom]
  | cons i rest ih =>
    rw [placesFrom, List.mem_append, List.mem_map, ih]
    constructor
    · rintro (⟨q, hq, rfl⟩ | ⟨k, j, q, hk, hq, rfl⟩)
      · exact ⟨0, i, q, rfl, hq, rfl⟩
      · exact ⟨k + 1, j, q, hk, hq, by rw [Nat.add_right_comm]; rfl⟩
    · rintro ⟨k, j, q, hk, hq, rfl⟩
      cases k with
      | zero =>
        obtain rfl := Option.some.inj hk
        exact .inl ⟨q, hq, rfl⟩
      | succ k => exact .inr ⟨k, j, q, hk, hq, by rw [Nat.add_right_comm]; rfl⟩

mutual

theorem Item.pairwise_places : ∀ i : Item, i.places.Pairwise (· < ·)
  | ⟨_, some items, _, _, _⟩ => pairwise_placesFrom 0 items
  | ⟨_, none, some _, _, _⟩ => List.pairwise_singleton _ _
  | ⟨_, none, none, _, _⟩ => .nil

/-- Positions come in the order of the tree: those of one item before those of the next. -/
theorem pairwise_placesFrom (n : Nat) : ∀ items, (placesFrom n items).Pairwise (· < ·)
  | [] => .nil
  | i :: rest => by
    rw [placesFrom, List.pairwise_append, List.pairwise_map]
    refine ⟨i.pairwise_places.imp fun h => List.cons_lt_cons_iff.2 (.inr ⟨rfl, h⟩),
      pairwise_placesFrom (n + 1) rest, ?_⟩
    rintro _ hp _ hq
    obtain ⟨p, -, rfl⟩ := List.mem_map.1 hp
    obtain ⟨k, j, q, -, -, rfl⟩ := mem_placesFrom.1 hq
    exact List.cons_lt_cons_iff.2 (.inl (by omega))

end

/-- A position is that of a request exactly when a request stands there. -/
theorem mem_placesFrom_zero {items : List Item} {p : List Nat} :
    p ∈ placesFrom 0 items ↔ ∃ e, itemAt? items p = some e ∧ e.2.isRequest = true := by
  induction p generalizing items with
  | nil => simp [mem_placesFrom, itemAt?]
  | cons n p ih =>
    have inside (i : Item) :
        p ∈ i.places ↔ ∃ e, i.at? p = some e ∧ e.2.isRequest = true := by
      obtain ⟨name, _ | children, request, vars, events⟩ := i
      · cases request <;> cases p <;> simp [Item.places, Item.at?, Item.isRequest, Item.isFolder]
      · rw [Item.places, ih]
        cases p with
        | nil => simp [itemAt?, Item.at?, Item.isRequest, Item.isFolder]
        | cons m q =>
          simp only [Item.at?_cons, Option.bind_some, Option.map_eq_some_iff,
            exists_exists_and_eq_and]
    rw [mem_placesFrom, itemAt?]
    simp only [Nat.zero_add, List.cons.injEq]
    constructor
    · rintro ⟨_, i, _, hi, hp, rfl, rfl⟩
      rw [hi]
      exact (inside i).1 hp
    · rintro ⟨e, he, hr⟩
      obtain ⟨i, hi, he⟩ := Option.bind_eq_some_iff.1 he
      exact ⟨n, i, p, hi, (inside i).2 ⟨e, he, hr⟩, rfl, rfl⟩

mutual

theorem Item.listing_eq_map (path : List String) : ∀ i : Item,
    i.listing path = (i.listing []).map fun e => (path ++ e.1, e.2)
  | ⟨name, some items, _, _, _⟩ => by
    rw [Item.listing, Item.listing, listingOf_eq_map (path ++ [name]),
      listingOf_eq_map ([] ++ [name])]
    simp
  | ⟨_, none, some _, _, _⟩ => by simp [Item.listing]
  | ⟨_, none, none, _, _⟩ => rfl

/-- What is listed inside folders is what is listed outside them, with the folders' names. -/
theorem listingOf_eq_map (path : List String) : ∀ items,
    listingOf path items = (listingOf [] items).map fun e => (path ++ e.1, e.2)
  | [] => rfl
  | i :: rest => by
    rw [listingOf, listingOf, i.listing_eq_map path, listingOf_eq_map path rest, List.map_append]

end

theorem Item.listing_of_folder {i : Item} {items : List Item} (h : i.items = some items) :
    i.listing [] = (listingOf [] items).map fun e => (i.name :: e.1, e.2) := by
  obtain ⟨name, _ | _, request, vars, events⟩ := i
  · cases h
  · cases h
    rw [listing, listingOf_eq_map]
    rfl

mutual

theorem Item.map_at?_places : ∀ i : Item, i.places.map i.at? = (i.listing []).map some
  | ⟨name, some items, request, vars, events⟩ => by
    have inside := congrArg (List.map (Option.map fun e => (name :: e.1, e.2)))
      (map_itemAt?_placesFrom [] items)
    rw [List.map_map, List.map_map] at inside
    rw [Item.places, Item.listing_of_folder rfl, List.map_map]
    refine Eq.trans (List.map_congr_left fun p hp => ?_) inside
    obtain ⟨k, j, q, -, -, rfl⟩ := mem_placesFrom.1 hp
    exact Item.at?_cons _ _ _
  | ⟨_, none, some _, _, _⟩ => rfl
  | ⟨_, none, none, _, _⟩ => rfl

/-- At the positions of the requests stands what is listed. -/
theorem map_itemAt?_placesFrom (before : List Item) : ∀ items,
    (placesFrom before.length items).map (itemAt? (before ++ items)) =
      (listingOf [] items).map some
  | [] => rfl
  | i :: rest => by
    have here (p : List Nat) : itemAt? (before ++ i :: rest) (before.length :: p) = i.at? p := by
      simp [itemAt?]
    have later := map_itemAt?_placesFrom (before ++ [i]) rest
    rw [List.length_append, List.length_singleton, List.append_assoc, List.singleton_append]
      at later
    rw [placesFrom, listingOf, List.map_append, List.map_append, later, List.map_map,
      ← i.map_at?_places]
    exact congrArg (· ++ _) (List.map_congr_left fun p _ => here p)

end

/-- The requests listed with the given folders around them. -/
def requestsAt (items : List Item) (breadcrumb : List String) : List Item :=
  ((listingOf [] items).filter (·.1 = breadcrumb)).map (·.2)

theorem mem_requestsAt {items : List Item} {breadcrumb : List String} {item : Item} :
    item ∈ requestsAt items breadcrumb ↔ (breadcrumb, item) ∈ listingOf [] items := by
  simp [requestsAt]

theorem requestsAt_cons_items (i : Item) (rest : List Item) (breadcrumb : List String) :
    requestsAt (i :: rest) breadcrumb =
      ((i.listing []).filter (·.1 = breadcrumb)).map (·.2) ++ requestsAt rest breadcrumb := by
  rw [requestsAt, listingOf, List.filter_append, List.map_append]
  rfl

theorem requestsAt_nil (items : List Item) : requestsAt items [] = items.filter (·.isRequest) := by
  induction items with
  | nil => rfl
  | cons i rest ih =>
    have here : ((i.listing []).filter (·.1 = [])).map (·.2) = [i].filter (·.isRequest) := by
      obtain ⟨name, _ | children, request, vars, events⟩ := i
      · cases request <;> rfl
      · rw [Item.listing_of_folder rfl, List.filter_map]
        simp [Function.comp_def, Item.isRequest, Item.isFolder]
    rw [requestsAt_cons_items, here, ih, ← List.filter_append, List.singleton_append]

/-- Of a name there may be several folders, and the requests of each of them are listed. -/
theorem requestsAt_cons (items : List Item) (name : String) (breadcrumb : List String) :
    requestsAt items (name :: breadcrumb) =
      (items.filter fun i => i.isFolder && i.name == name).flatMap fun folder =>
        requestsAt folder.children breadcrumb := by
  induction items with
  | nil => rfl
  | cons i rest ih =>
    have here : ((i.listing []).filter (·.1 = name :: breadcrumb)).map (·.2) =
        ([i].filter fun i => i.isFolder && i.name == name).flatMap fun folder =>
          requestsAt folder.children breadcrumb := by
      obtain ⟨own, _ | children, request, vars, events⟩ := i
      · cases request <;> simp [Item.listing, Item.isFolder]
      · rw [Item.listing_of_folder rfl, List.filter_map]
        by_cases h : own = name
        · simp [h, Item.isFolder, Item.children, requestsAt, Function.comp_def]
        · simp [h, Item.isFolder, Function.comp_def]
    rw [requestsAt_cons_items, here, ih, ← List.flatMap_append, ← List.filter_append,
      List.singleton_append]

/-- The items that the names lead to, each of the names being that of a folder. -/
def levelFrom? : List Item → List String → Option (List Item)
  | items, [] => some items
  | items, name :: names => (folderNamed? name items).bind fun f => levelFrom? f.children names

theorem Collection.level?_eq (c : Collection) (breadcrumb : List String) :
    c.level? breadcrumb = levelFrom? c.items breadcrumb := by
  unfold level? folderChain
  generalize c.items = items
  induction breadcrumb generalizing items with
  | nil => rfl
  | cons name names ih =>
    rw [levelFrom?, folderChainFrom]
    cases folderNamed? name items with
    | none => rfl
    | some folder =>
      rw [Option.bind_some, ← ih folder.children]
      cases h : (folderChainFrom folder.children names).getLast? <;>
        simp [List.getLast?_cons, h]

theorem Collection.findRequest?_eq (c : Collection) (breadcrumb : List String) (name : String) :
    c.findRequest? breadcrumb name =
      (levelFrom? c.items breadcrumb).bind (·.find? fun i => i.isRequest && i.name == name) := by
  rw [← c.level?_eq]
  rfl

/-- What stands where the names lead is listed with these names, whatever else is. -/
theorem mem_requestsAt_of_levelFrom? {items level : List Item} {breadcrumb : List String}
    (h : levelFrom? items breadcrumb = some level) {item : Item} (hi : item ∈ level)
    (hr : item.isRequest = true) : item ∈ requestsAt items breadcrumb := by
  induction breadcrumb generalizing items with
  | nil =>
    obtain rfl := Option.some.inj h
    rw [requestsAt_nil]
    exact List.mem_filter.2 ⟨hi, hr⟩
  | cons name names ih =>
    obtain ⟨folder, hf, hl⟩ := Option.bind_eq_some_iff.1 h
    obtain ⟨hm, hfolder, hn⟩ := folderNamed?_some hf
    rw [requestsAt_cons]
    exact List.mem_flatMap.2 ⟨folder, List.mem_filter.2 ⟨hm, by simp [hfolder, hn]⟩, ih hl⟩

/-- At every level, no two folders that are siblings have one name. -/
inductive DistinctFolders : List Item → Prop
  | intro {items} (names : ((items.filter (·.isFolder)).map (·.name)).Nodup)
      (inside : ∀ i ∈ items, DistinctFolders i.children) : DistinctFolders items

theorem filter_folderNamed {items : List Item}
    (h : ((items.filter (·.isFolder)).map (·.name)).Nodup) (name : String) :
    (items.filter fun i => i.isFolder && i.name == name) = (folderNamed? name items).toList := by
  unfold folderNamed?
  induction items with
  | nil => rfl
  | cons i rest ih =>
    by_cases hi : (i.isFolder && i.name == name) = true
    · obtain ⟨hf, hn⟩ := Bool.and_eq_true_iff.1 hi
      rw [List.filter_cons_of_pos hf, List.map_cons, List.nodup_cons] at h
      have other : (rest.filter fun i => i.isFolder && i.name == name) = [] := by
        refine List.filter_eq_nil_iff.2 fun j hj hjn => h.1 ?_
        obtain ⟨hjf, hjn⟩ := Bool.and_eq_true_iff.1 hjn
        rw [beq_iff_eq.1 hn, ← beq_iff_eq.1 hjn]
        exact List.mem_map_of_mem (List.mem_filter.2 ⟨hj, hjf⟩)
      rw [List.filter_cons_of_pos (p := fun i : Item => i.isFolder && i.name == name) hi,
        List.find?_cons_of_pos (p := fun i : Item => i.isFolder && i.name == name) hi, other]
      rfl
    · have hr : ((rest.filter (·.isFolder)).map (·.name)).Nodup :=
        h.sublist (((List.sublist_cons_self i rest).filter _).map _)
      rw [List.filter_cons_of_neg (p := fun i : Item => i.isFolder && i.name == name) hi,
        List.find?_cons_of_neg (p := fun i : Item => i.isFolder && i.name == name) hi]
      exact ih hr

/-- Where no folder hides another, what is listed with some names stands where they lead. -/
theorem requestsAt_eq {items : List Item} (h : DistinctFolders items) (breadcrumb : List String) :
    requestsAt items breadcrumb =
      ((levelFrom? items breadcrumb).getD []).filter (·.isRequest) := by
  induction breadcrumb generalizing items with
  | nil => exact requestsAt_nil items
  | cons name names ih =>
    obtain ⟨distinct, inside⟩ := h
    rw [requestsAt_cons, filter_folderNamed distinct, levelFrom?]
    cases hf : folderNamed? name items with
    | none => rfl
    | some folder =>
      rw [Option.toList_some, List.flatMap_singleton, ih (inside _ (folderNamed?_some hf).1)]
      rfl

/-- The first entry of a listing that has the given folders and name. -/
def firstListed? (entries : List (List String × Item)) (breadcrumb : List String) (name : String) :
    Option (List String × Item) :=
  entries.find? fun e => e.1 = breadcrumb ∧ e.2.name = name

theorem firstListed?_requests (c : Collection) (breadcrumb : List String) (name : String) :
    (firstListed? c.requests breadcrumb name).map (·.2) =
      (requestsAt c.items breadcrumb).find? (·.name == name) := by
  unfold firstListed? requestsAt Collection.requests
  rw [List.find?_map, List.find?_filter]
  simp

namespace Collection

variable (c : Collection)

/-- Each folder of a chain has its name of the breadcrumb and stands in the folder before it. -/
theorem getElem?_folderChain {breadcrumb : List String} {i : Nat} {folder : Item}
    (h : (c.folderChain breadcrumb)[i]? = some folder) :
    folder.isFolder = true ∧ breadcrumb[i]? = some folder.name ∧
      ∃ siblings, (c.items :: (c.folderChain breadcrumb).map Item.children)[i]? = some siblings ∧
        folder ∈ siblings := by
  unfold folderChain at h ⊢
  generalize c.items = items at h ⊢
  induction breadcrumb generalizing items i with
  | nil => cases h
  | cons name names ih =>
    rw [folderChainFrom] at h ⊢
    cases hf : folderNamed? name items with
    | none =>
      rw [hf] at h
      cases h
    | some first =>
      rw [hf] at h
      cases i with
      | zero =>
        obtain rfl := Option.some.inj h
        obtain ⟨hm, hfolder, hn⟩ := folderNamed?_some hf
        exact ⟨hfolder, congrArg some hn.symm, items, rfl, hm⟩
      | succ i => exact ih first.children h

/-- A listing goes through the tree in order and meets each request once, at its position. -/
theorem requests_positions :
    ∃ positions : List (List Nat), positions.Pairwise (· < ·) ∧
      positions.map (itemAt? c.items) = c.requests.map some ∧
      ∀ p, p ∈ positions ↔ ∃ e, itemAt? c.items p = some e ∧ e.2.isRequest = true :=
  ⟨placesFrom 0 c.items, pairwise_placesFrom 0 c.items, map_itemAt?_placesFrom [] c.items,
    fun _ => mem_placesFrom_zero⟩

theorem mem_requests_of_findRequest? {breadcrumb : List String} {name : String} {item : Item}
    (h : c.findRequest? breadcrumb name = some item) :
    item.name = name ∧ item.isRequest = true ∧ (breadcrumb, item) ∈ c.requests := by
  rw [c.findRequest?_eq] at h
  obtain ⟨level, hl, hi⟩ := Option.bind_eq_some_iff.1 h
  have hp := List.find?_some hi
  obtain ⟨hr, hn⟩ := Bool.and_eq_true_iff.1 hp
  exact ⟨beq_iff_eq.1 hn, hr,
    mem_requestsAt.1 (mem_requestsAt_of_levelFrom? hl (List.mem_of_find?_eq_some hi) hr)⟩

theorem findRequest?_eq_firstListed? (h : DistinctFolders c.items) (breadcrumb : List String)
    (name : String) :
    c.findRequest? breadcrumb name = (firstListed? c.requests breadcrumb name).map (·.2) := by
  rw [firstListed?_requests, requestsAt_eq h, c.findRequest?_eq, List.find?_filter]
  cases levelFrom? c.items breadcrumb with
  | none => rfl
  | some level =>
    rw [Option.bind_some, Option.getD_some]
    exact congrArg (level.find? ·) (funext fun i => Bool.eq_iff_iff.2 (by simp))

/-- Folders, listing and lookup agree on every tree. The folders of a breadcrumb lead one into the
next; the listing has each request there is at its place in the tree, with the folders around it; a
request that is found is listed where it was looked for; and where no folder hides another of its
name, the request that is found is the first one listed there with its name. -/
theorem findRequest?_agrees_requests :
    (∀ breadcrumb, (c.folderChain breadcrumb).length ≤ breadcrumb.length ∧
      ∀ (i : Nat) (folder : Item), (c.folderChain breadcrumb)[i]? = some folder →
        folder.isFolder = true ∧ breadcrumb[i]? = some folder.name ∧
          ∃ siblings, (c.items :: (c.folderChain breadcrumb).map Item.children)[i]? =
            some siblings ∧ folder ∈ siblings) ∧
    (∀ breadcrumb name item, c.findRequest? breadcrumb name = some item →
      item.name = name ∧ item.isRequest = true ∧ (breadcrumb, item) ∈ c.requests) ∧
    (∃ positions : List (List Nat), positions.Pairwise (· < ·) ∧
      positions.map (itemAt? c.items) = c.requests.map some ∧
      ∀ p, p ∈ positions ↔ ∃ e, itemAt? c.items p = some e ∧ e.2.isRequest = true) ∧
    (DistinctFolders c.items → ∀ breadcrumb name,
      c.findRequest? breadcrumb name = (firstListed? c.requests breadcrumb name).map (·.2)) :=
  ⟨fun breadcrumb => ⟨length_folderChainFrom_le c.items breadcrumb,
      fun _ _ h => c.getElem?_folderChain h⟩,
    fun _ _ _ h => c.mem_requests_of_findRequest? h, c.requests_positions,
    fun h => c.findRequest?_eq_firstListed? h⟩

end Collection

/-- A folder inside one of its own name, and in it two requests of one name. -/
def nestedFolders : Collection where
  items := [{ name := "Ping", request := some {} },
    { name := "Users", items := some [{ name := "List", request := some {} },
      { name := "Users", request := some {}, items := some [
        { name := "List", request := some { method := "get" } },
        { name := "List", request := some { method := "post" } }] }] }]

/-- Of two requests of one name in one folder, the first is found. -/
theorem findRequest?_agrees_requests_nested :
    DistinctFolders nestedFolders.items ∧
      nestedFolders.findRequest? ["Users", "Users"] "List" =
        (firstListed? nestedFolders.requests ["Users", "Users"] "List").map (·.2) := by
  have leaf : DistinctFolders [] := .intro .nil (by simp)
  have requests (a b : Item) (ha : a.items = none) (hb : b.items = none) :
      DistinctFolders [a, b] := by
    refine .intro (by simp [Item.isFolder, ha, hb]) ?_
    simpa [Item.children, ha, hb] using leaf
  have distinct : DistinctFolders nestedFolders.items := by
    refine .intro (by decide) ?_
    simp only [nestedFolders, List.forall_mem_cons, Item.children, Option.getD_none,
      Option.getD_some, List.not_mem_nil, false_implies, implies_true, and_true]
    refine ⟨leaf, .intro (by decide) ?_⟩
    simp only [List.forall_mem_cons, Item.children, Option.getD_none, Option.getD_some,
      List.not_mem_nil, false_implies, implies_true, and_true]
    exact ⟨leaf, requests _ _ rfl rfl⟩
  exact ⟨distinct,
    nestedFolders.findRequest?_agrees_requests.2.2.2 distinct ["Users", "Users"] "List"⟩

end CollectionRunner
