import CollectionRunner.Collection.Encode
import CollectionRunner.Json.Decode
import Mathlib.Data.List.Nodup

namespace CollectionRunner.Json

variable {α β : Type}

section Order

variable {key k : String} {value v : α} {field : String × α} {fields rest : List (String × α)}

@[simp] theorem insertField_nil : insertField key value [] = [(key, value)] := rfl

@[simp] theorem insertField_of_lt (h : key < k) :
    insertField key value ((k, v) :: rest) = (key, value) :: (k, v) :: rest := by
  have hne : key ≠ k := fun he => String.lt_irrefl k (he ▸ h)
  rw [insertField, if_neg hne, if_pos h]

@[simp] theorem insertField_of_gt (h : k < key) :
    insertField key value ((k, v) :: rest) = (k, v) :: insertField key value rest := by
  have hne : key ≠ k := fun he => String.lt_irrefl k (he ▸ h)
  rw [insertField, if_neg hne, if_neg (String.lt_asymm h)]

theorem mem_insertField (h : field ∈ insertField key value fields) :
    field = (key, value) ∨ field ∈ fields := by
  fun_induction insertField key value fields with
  | case1 => exact .inl (List.mem_singleton.1 h)
  | case2 v rest =>
    rcases List.mem_cons.1 h with h | h
    · exact .inl h
    · exact .inr (List.mem_cons_of_mem _ h)
  | case3 k v rest =>
    rcases List.mem_cons.1 h with h | h
    · exact .inl h
    · exact .inr h
  | case4 k v rest _ _ ih =>
    rcases List.mem_cons.1 h with h | h
    · exact .inr (h ▸ List.mem_cons_self)
    · exact (ih h).imp_right (List.mem_cons_of_mem _)

theorem pairwise_insertField (h : fields.Pairwise (·.1 < ·.1)) :
    (insertField key value fields).Pairwise (·.1 < ·.1) := by
  fun_induction insertField key value fields with
  | case1 => exact List.pairwise_singleton _ _
  | case2 v rest => exact List.pairwise_cons.2 (List.pairwise_cons.1 h)
  | case3 k v rest _ hlt =>
    refine List.pairwise_cons.2 ⟨fun f hf => ?_, h⟩
    rcases List.mem_cons.1 hf with rfl | hf
    · exact hlt
    · exact String.lt_trans hlt ((List.pairwise_cons.1 h).1 f hf)
  | case4 k v rest hne hnlt ih =>
    obtain ⟨hk, hr⟩ := List.pairwise_cons.1 h
    refine List.pairwise_cons.2 ⟨fun f hf => ?_, ih hr⟩
    rcases mem_insertField hf with rfl | hf
    · by_contra hle
      exact hne (String.le_antisymm (String.not_lt.1 hle) (String.not_lt.1 hnlt))
    · exact hk f hf

end Order

/-- No two fields of an object have one name. -/
theorem nodup_of_ofFields {fields sorted : List (String × Value)}
    (h : Value.ofFields fields = .object sorted) : (sorted.map (·.1)).Nodup := by
  have from_ (acc : List (String × Value)) (ha : acc.Pairwise (·.1 < ·.1)) :
      (fields.foldl (fun acc f => insertField f.1 f.2 acc) acc).Pairwise (·.1 < ·.1) := by
    clear h
    induction fields generalizing acc with
    | nil => exact ha
    | cons f fields ih => exact ih _ (pairwise_insertField ha)
  obtain rfl := Value.object.inj h
  refine List.pairwise_map.2 ((from_ [] .nil).imp fun {f g} hlt he => ?_)
  rw [he] at hlt
  exact String.lt_irrefl _ hlt

mutual

/-- Every part of a value can be read. -/
theorem Node.value_ofValue : ∀ v : Value, ∃ w, (Node.ofValue v).value = .ok w
  | .null => ⟨_, rfl⟩
  | .bool _ => ⟨_, rfl⟩
  | .number _ => ⟨_, rfl⟩
  | .string _ => ⟨_, rfl⟩
  | .array items => by
    obtain ⟨ws, h⟩ := Node.valueItems_ofItems items
    exact ⟨.array ws, by simp only [ofValue, value, h]; rfl⟩
  | .object fields => by
    obtain ⟨ws, h⟩ := Node.valueFields_ofFields fields
    exact ⟨.ofFields ws, by simp only [ofValue, value, h]; rfl⟩

theorem Node.valueItems_ofItems : ∀ vs : List Value, ∃ ws, valueItems (ofItems vs) = .ok ws
  | [] => ⟨_, rfl⟩
  | v :: rest => by
    obtain ⟨w, hv⟩ := Node.value_ofValue v
    obtain ⟨ws, hr⟩ := Node.valueItems_ofItems rest
    exact ⟨w :: ws, by simp only [ofItems, valueItems, hv, hr]; rfl⟩

theorem Node.valueFields_ofFields :
    ∀ fields : List (String × Value), ∃ ws, valueFields (ofFields fields) = .ok ws
  | [] => ⟨_, rfl⟩
  | (k, v) :: rest => by
    obtain ⟨w, hv⟩ := Node.value_ofValue v
    obtain ⟨ws, hr⟩ := Node.valueFields_ofFields rest
    exact ⟨(k, w) :: ws, by simp only [ofFields, valueFields, hv, hr]; rfl⟩

end

theorem Node.height_le_heightItems {v : Value} {vs : List Value} (h : v ∈ vs) :
    (ofValue v).height ≤ heightItems (ofItems vs) := by
  induction vs with
  | nil => cases h
  | cons w vs ih =>
    rw [ofItems, heightItems]
    rcases List.mem_cons.1 h with rfl | h
    · exact Nat.le_max_left _ _
    · exact Nat.le_trans (ih h) (Nat.le_max_right _ _)

theorem Node.height_le_heightFields {key : String} {v : Value} {fields : List (String × Value)}
    (h : (key, v) ∈ fields) : (ofValue v).height ≤ heightFields (ofFields fields) := by
  induction fields with
  | nil => cases h
  | cons f fields ih =>
    rw [ofFields, heightFields]
    rcases List.mem_cons.1 h with rfl | h
    · exact Nat.le_max_left _ _
    · exact Nat.le_trans (ih h) (Nat.le_max_right _ _)

namespace Decoder

theorem items_ofItems {read : Decoder α} {write : α → Value} {vs : List α}
    (h : ∀ v ∈ vs, read (Node.ofValue (write v)) = .ok v) :
    items read (Node.ofItems (vs.map write)) = .ok vs := by
  induction vs with
  | nil => rfl
  | cons v vs ih =>
    obtain ⟨hv, hr⟩ := List.forall_mem_cons.1 h
    rw [List.map_cons, Node.ofItems, items, hv, ih hr]
    rfl

theorem list_each {read : Decoder α} {write : α → Value} {vs : List α}
    (h : ∀ v ∈ vs, read (Node.ofValue (write v)) = .ok v) :
    list read (Node.ofValue (Encode.each write vs)) = .ok vs := by
  unfold Encode.each
  rw [Node.ofValue, list, items_ofItems h]
  rfl

theorem variants_ofValue {name : String} {read : Node → Option α} {value : Value} {v : α}
    (h : read (Node.ofValue value) = some v) :
    variants name read (Node.ofValue value) = .ok v := by
  obtain ⟨w, hw⟩ := Node.value_ofValue value
  unfold variants
  rw [hw, h]
  rfl

variable {known : Fields α}

/-- Fields that, read one after another, take a record to another. -/
inductive Fills (known : Fields α) : List (String × Value) → α → α → Prop
  | nil {r} : Fills known [] r r
  | cons {name value rest read r r' r''} (known_name : field? name known = some read)
      (reads : read r (Node.ofValue value) = .ok r') (later : Fills known rest r' r'') :
      Fills known ((name, value) :: rest) r r''

namespace Fills

variable {name : String} {value : Value} {rest : List (String × Value)} {r r' : α} {v : β}
  {read : Decoder β} {put : α → β → α}

/-- A field that is always there. -/
theorem field (h : field? name known = some fun r n => read n >>= fun v => pure (put r v))
    (hv : read (Node.ofValue value) = .ok v) (hr : Fills known rest (put r v) r') :
    Fills known ((name, value) :: rest) r r' :=
  .cons h (congrArg (· >>= fun v => pure (put r v)) hv) hr

/-- A field that is there only if it has a value. -/
theorem optional {write : β → Value} {o : Option β} {read : Decoder (Option β)}
    {put : α → Option β → α}
    (h : field? name known = some fun r n => read n >>= fun v => pure (put r v))
    (hv : ∀ v, o = some v → read (Node.ofValue (write v)) = .ok (some v)) (hn : put r none = r)
    (hr : Fills known rest (put r o) r') :
    Fills known (Encode.optional name write o ++ rest) r r' := by
  cases o with
  | none => exact hn ▸ hr
  | some v => exact .field h (hv v rfl) hr

/-- A field that is left out when its list is empty. -/
theorem nonEmpty {write : List β → Value} {vs : List β} {read : Decoder (List β)}
    {put : α → List β → α}
    (h : field? name known = some fun r n => read n >>= fun v => pure (put r v))
    (hv : read (Node.ofValue (write vs)) = .ok vs) (hn : put r [] = r)
    (hr : Fills known rest (put r vs) r') :
    Fills known (Encode.nonEmpty name write vs ++ rest) r r' := by
  cases vs with
  | nil => exact hn ▸ hr
  | cons v vs => exact .field h hv hr

/-- A mark that is left out unless it is set. -/
theorem mark {b : Bool} {put : α → Bool → α}
    (h : field? name known = some fun r n => Decoder.bool n >>= fun v => pure (put r v))
    (hn : put r false = r) (hr : Fills known rest (put r b) r') :
    Fills known (Encode.mark name b ++ rest) r r' := by
  cases b with
  | false => exact hn ▸ hr
  | true => exact .field h rfl hr

/-- Fields that each do their own part to a record, whatever it holds, fill it in their order. -/
theorem of_puts {fields : List (String × Value)} (put : String → α → α)
    (h : ∀ field ∈ fields, ∃ read, field? field.1 known = some read ∧
      ∀ r, read r (Node.ofValue field.2) = .ok (put field.1 r)) (r : α) :
    Fills known fields r (fields.foldl (fun r field => put field.1 r) r) := by
  induction fields generalizing r with
  | nil => exact .nil
  | cons field rest ih =>
    obtain ⟨⟨read, known_name, reads⟩, later⟩ := List.forall_mem_cons.1 h
    exact .cons known_name (reads r) (ih later _)

end Fills

theorem recordFields_cons {name : String} {value : Value} {rest : List (String × Value)}
    {read : α → Decoder α} {r r' : α} {seen : List String} (hk : field? name known = some read)
    (hs : name ∉ seen) (hr : read r (Node.ofValue value) = .ok r') :
    recordFields known passOver (Node.ofFields ((name, value) :: rest)) seen r =
      recordFields known passOver (Node.ofFields rest) (name :: seen) r' := by
  have hc : seen.contains name = false := by simpa using hs
  rw [Node.ofFields, recordFields]
  simp only [bind, Except.bind, hk, hc, hr, Except.mapError, Bool.false_eq_true, if_false]

theorem recordFields_ofFields {fields : List (String × Value)} {r r' : α} {seen : List String}
    (h : Fills known fields r r') (nodup : (fields.map (·.1)).Nodup)
    (fresh : ∀ field ∈ fields, field.1 ∉ seen) :
    recordFields known passOver (Node.ofFields fields) seen r =
      .ok ((fields.map (·.1)).reverse ++ seen, r') := by
  induction h generalizing seen with
  | nil => rfl
  | @cons name value rest read r r' r'' hk hr _ ih =>
    obtain ⟨hname, hrest⟩ := List.nodup_cons.1 nodup
    obtain ⟨hseen, hfresh⟩ := List.forall_mem_cons.1 fresh
    have later : ∀ field ∈ rest, field.1 ∉ name :: seen := by
      intro field hf hm
      rcases List.mem_cons.1 hm with he | hm
      · exact hname (List.mem_map.2 ⟨field, hf, he⟩)
      · exact hfresh field hf hm
    rw [recordFields_cons hk hseen hr, ih hrest later]
    simp

/-- A record is read from an object once its fields fill it, those required among them. -/
theorem record_ofFields {name : String} {required : List String} {start r : α}
    {fields sorted : List (String × Value)} (order : Value.ofFields fields = .object sorted)
    (h : Fills known sorted start r) (there : ∀ name ∈ required, name ∈ sorted.map (·.1)) :
    record name required known start (Node.ofValue (Value.ofFields fields)) = .ok r := by
  have hr : recordFields known passOver (Node.ofFields sorted) [] start =
      .ok ((sorted.map (·.1)).reverse ++ [], r) :=
    recordFields_ofFields h (nodup_of_ofFields order) (by simp)
  have found {seen : List String} (hs : ∀ name ∈ required, name ∈ seen) :
      required.find? (! seen.contains ·) = none :=
    List.find?_eq_none.2 fun name hm => by simpa using hs name hm
  rw [order, Node.ofValue, record, hr]
  simp only [bind, Except.bind, Node.readEnding]
  rw [found (by simpa using there)]
  rfl

/-- A record that is written as an object only is read in the same way. -/
theorem fieldsOnly_object {start r : α} {fields : List (String × Value)}
    (nodup : (fields.map (·.1)).Nodup) (h : Fills known fields start r) :
    fieldsOnly known start (Node.ofValue (.object fields)) = some r := by
  rw [Node.ofValue, fieldsOnly, recordFields_ofFields h nodup (by simp)]

theorem fieldsOnly_ofFields {start r : α} {fields sorted : List (String × Value)}
    (order : Value.ofFields fields = .object sorted) (h : Fills known sorted start r) :
    fieldsOnly known start (Node.ofValue (Value.ofFields fields)) = some r := by
  rw [order]
  exact fieldsOnly_object (nodup_of_ofFields order) h

end Decoder

end CollectionRunner.Json
