import CollectionRunner.Proofs.Collection.Listing
import CollectionRunner.RequestPath
import CollectionRunner.Proofs.Text.Trimming

namespace CollectionRunner

namespace RequestPath

/-- A name that can stand between the slashes of a path. -/
structure IsPart (name : String) : Prop where
  nonempty : name ≠ ""
  noSlash : '/' ∉ name.toList
  trimmed : Text.Trimmed name.toList

theorem slash_notMem_partsFrom {part path : List Char} (h : '/' ∉ part) :
    ∀ p ∈ partsFrom part path, '/' ∉ p := by
  fun_induction partsFrom part path with
  | case1 part => simpa using h
  | case2 part rest ih => simpa using ⟨h, ih List.not_mem_nil⟩
  | case3 part c rest other ih =>
    have slash : c ≠ '/' := other
    exact ih (by simpa [slash.symm] using h)

theorem isPart_of_mem_parts {path name : String} (h : name ∈ parts path) : IsPart name := by
  obtain ⟨p, hp, rfl⟩ := List.mem_map.1 h
  obtain ⟨hp, some_left⟩ := List.mem_filter.1 hp
  obtain ⟨q, hq, rfl⟩ := List.mem_map.1 hp
  have noSlash : '/' ∉ q := slash_notMem_partsFrom List.not_mem_nil q hq
  refine ⟨by simpa using some_left, ?_, ?_⟩
  · rw [String.toList_ofList]
    exact fun slash => noSlash ((Text.trimChars_sublist q).subset slash)
  · rw [String.toList_ofList]
    exact Text.trimmed_trimChars q

theorem partsFrom_eq (part path : List Char) :
    partsFrom part path = List.splitOnPPrepend (· == '/') path part := by
  fun_induction partsFrom part path with
  | case1 part => rfl
  | case2 part rest ih =>
    rw [ih, List.splitOnPPrepend_cons_pos (by decide)]
    rfl
  | case3 part c rest other ih =>
    have slash : ¬ (c == '/') = true := by simpa using other
    rw [ih, List.splitOnPPrepend_cons_eq_if, if_neg slash]

/-- Names with slashes between them are the parts of the path that they make. -/
theorem parts_intercalate {names : List String} (some_name : names ≠ [])
    (h : ∀ name ∈ names, IsPart name) : parts (String.intercalate "/" names) = names := by
  have split : partsFrom [] (String.intercalate "/" names).toList = names.map String.toList := by
    rw [partsFrom_eq, String.toList_intercalate]
    refine List.splitOn_intercalate '/' ?_ (by simpa using some_name)
    intro l hl
    obtain ⟨name, hn, rfl⟩ := List.mem_map.1 hl
    exact (h name hn).noSlash
  have trimmed : (names.map String.toList).map Text.trimChars = names.map String.toList := by
    rw [List.map_map]
    exact List.map_congr_left fun name hn => Text.trimChars_eq_self_iff.2 (h name hn).trimmed
  have kept : (names.map String.toList).filter (! ·.isEmpty) = names.map String.toList := by
    refine List.filter_eq_self.2 fun l hl => ?_
    obtain ⟨name, hn, rfl⟩ := List.mem_map.1 hl
    simpa using (h name hn).nonempty
  rw [parts, split, trimmed, kept]
  simp

theorem split?_eq_some_iff {path name : String} {breadcrumb : List String} :
    split? path = some (breadcrumb, name) ↔ parts path = breadcrumb ++ [name] := by
  unfold split?
  rw [← List.reverse_inj, List.reverse_append]
  cases (parts path).reverse with
  | nil => simp
  | cons last before => simp [List.reverse_eq_iff, and_comm]

/-- A path that is put together from names is taken apart into them. -/
theorem split?_joinPath {breadcrumb : List String} {name : String}
    (h : ∀ part ∈ breadcrumb ++ [name], IsPart part) :
    split? (joinPath breadcrumb name) = some (breadcrumb, name) :=
  split?_eq_some_iff.2 (parts_intercalate (by simp) h)

theorem isPart_of_split? {path name : String} {breadcrumb : List String}
    (h : split? path = some (breadcrumb, name)) : ∀ part ∈ breadcrumb ++ [name], IsPart part :=
  fun _ hp => isPart_of_mem_parts (split?_eq_some_iff.1 h ▸ hp)

end RequestPath

open RequestPath (IsPart)

/-- At every level each folder and each request has a name that can stand in a path, and no two
folders have one name, nor have two requests. -/
inductive Addressable : List Item → Prop
  | intro {items} (folders : ((items.filter (·.isFolder)).map (·.name)).Nodup)
    (requests : ((items.filter (·.isRequest)).map (·.name)).Nodup)
    (names : ∀ i ∈ items, i.isFolder = true ∨ i.isRequest = true → IsPart i.name)
    (inside : ∀ i ∈ items, Addressable i.children) : Addressable items

namespace Addressable

variable {items level : List Item} {breadcrumb : List String}

theorem nil : Addressable [] := .intro .nil .nil (by simp) (by simp)

theorem single {i : Item} (name : IsPart i.name) (inside : Addressable i.children) :
    Addressable [i] :=
  .intro ((List.nodup_singleton i.name).sublist (List.filter_sublist.map _))
    ((List.nodup_singleton i.name).sublist (List.filter_sublist.map _))
    (by simpa using fun _ => name) (by simpa using inside)

theorem distinctFolders (h : Addressable items) : DistinctFolders items := by
  induction h with
  | intro folders _ _ _ ih => exact .intro folders ih

/-- What the names of folders lead to is addressable too. -/
theorem levelFrom? (h : Addressable items)
    (hl : CollectionRunner.levelFrom? items breadcrumb = some level) :
    Addressable level ∧ ∀ name ∈ breadcrumb, IsPart name := by
  induction breadcrumb generalizing items with
  | nil =>
    obtain rfl := Option.some.inj hl
    exact ⟨h, by simp⟩
  | cons name rest ih =>
    obtain ⟨_, _, names, inside⟩ := h
    obtain ⟨folder, hf, inner⟩ := Option.bind_eq_some_iff.1 hl
    obtain ⟨mem, isFolder, rfl⟩ := folderNamed?_some hf
    obtain ⟨below, parts⟩ := ih (inside folder mem) inner
    exact ⟨below, List.forall_mem_cons.2 ⟨names folder mem (.inl isFolder), parts⟩⟩

/-- The requests in a folder, if there is one. -/
theorem requestsAt (h : Addressable items) (breadcrumb : List String) :
    ((CollectionRunner.requestsAt items breadcrumb).map (·.name)).Nodup ∧
      ∀ i ∈ CollectionRunner.requestsAt items breadcrumb,
        ∀ part ∈ breadcrumb ++ [i.name], IsPart part := by
  rw [requestsAt_eq h.distinctFolders]
  cases hl : CollectionRunner.levelFrom? items breadcrumb with
  | none => simp
  | some level =>
    obtain ⟨⟨_, requests, names, _⟩, parts⟩ := h.levelFrom? hl
    refine ⟨requests, fun i hi part hp => ?_⟩
    obtain ⟨mem, isRequest⟩ := List.mem_filter.1 hi
    rcases List.mem_append.1 hp with hp | hp
    · exact parts part hp
    · obtain rfl := List.mem_singleton.1 hp
      exact names i mem (.inr isRequest)

end Addressable

namespace Collection

variable {c : Collection} {e : List String × Item}

/-- The path that is printed for an entry of a listing. -/
def pathOf (e : List String × Item) : String := joinPath e.1 e.2.name

theorem isPart_of_mem_requests (h : Addressable c.items) (he : e ∈ c.requests) :
    ∀ part ∈ e.1 ++ [e.2.name], IsPart part :=
  (h.requestsAt e.1).2 e.2 (mem_requestsAt.2 he)

theorem split?_pathOf (h : Addressable c.items) (he : e ∈ c.requests) :
    RequestPath.split? (pathOf e) = some (e.1, e.2.name) :=
  RequestPath.split?_joinPath (isPart_of_mem_requests h he)

theorem findRequest?_of_mem (h : Addressable c.items) (he : e ∈ c.requests) :
    c.findRequest? e.1 e.2.name = some e.2 := by
  rw [c.findRequest?_eq_firstListed? h.distinctFolders, firstListed?_requests]
  have mem : e.2 ∈ requestsAt c.items e.1 := mem_requestsAt.2 he
  have some_found : ((requestsAt c.items e.1).find? (·.name == e.2.name)).isSome = true :=
    List.find?_isSome.2 ⟨e.2, mem, beq_self_eq_true e.2.name⟩
  obtain ⟨found, hf⟩ := Option.isSome_iff_exists.1 some_found
  have same := List.find?_some hf
  rw [hf, List.inj_on_of_nodup_map (h.requestsAt e.1).1 (List.mem_of_find?_eq_some hf) mem
    (beq_iff_eq.1 same)]

/-- How often folders and a name are listed is how often the name is among the requests there. -/
theorem count_requests (c : Collection) (breadcrumb : List String) (name : String) :
    (c.requests.map fun e => (e.1, e.2.name)).count (breadcrumb, name) =
      ((requestsAt c.items breadcrumb).map (·.name)).count name := by
  unfold requestsAt Collection.requests
  rw [List.map_map, List.count_eq_countP, List.count_eq_countP, List.countP_map, List.countP_map,
    List.countP_filter]
  refine List.countP_congr fun e _ => ?_
  simp [and_comm]

/-- No two requests have one path. -/
theorem nodup_paths (h : Addressable c.items) : (c.requests.map pathOf).Nodup := by
  have places : (c.requests.map fun e => (e.1, e.2.name)).Nodup :=
    List.nodup_iff_count_le_one.2 fun (breadcrumb, name) => by
      rw [count_requests]
      exact List.nodup_iff_count_le_one.1 (h.requestsAt breadcrumb).1 name
  refine List.Nodup.of_map (f := RequestPath.split?) ?_
  rw [List.map_map]
  have split : c.requests.map (RequestPath.split? ∘ pathOf) =
      (c.requests.map fun e => (e.1, e.2.name)).map some := by
    rw [List.map_map]
    exact List.map_congr_left fun e he => split?_pathOf h he
  rw [split]
  exact places.map fun _ _ => Option.some.inj

end Collection

end CollectionRunner
