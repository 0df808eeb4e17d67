import CollectionRunner.Collection.Decode
import CollectionRunner.Proofs.Json.Record

namespace CollectionRunner

open Json Encode Decoder

theorem Variable.decode_encode (v : Variable) :
    Variable.decode (Node.ofValue v.encode) = .ok v := by
  have order : v.encode = .object (("enabled", .bool v.enabled) :: ("key", text v.key) ::
      (Encode.optional "type" text v.kind ++ [("value", text v.value)])) := by
    cases h : v.kind <;>
      simp (disch := decide) [Variable.encode, Value.ofFields, Encode.optional, h]
  exact record_ofFields order
    (.field rfl rfl <| .field rfl rfl <| .optional rfl (fun _ _ => rfl) rfl <| .field rfl rfl .nil)
    (by simp)

theorem Header.decode_encode (h : Header) : Header.decode (Node.ofValue h.encode) = .ok h := by
  have order : h.encode = .object (Encode.mark "disabled" h.disabled ++
      [("key", text h.key), ("value", text h.value)]) := by
    cases hd : h.disabled <;>
      simp (disch := decide) [Header.encode, Value.ofFields, Encode.mark, hd]
  exact record_ofFields order (.mark rfl rfl <| .field rfl rfl <| .field rfl rfl .nil) (by simp)

theorem QueryParameter.decode_encode (q : QueryParameter) :
    QueryParameter.decode (Node.ofValue q.encode) = .ok q := by
  have order : q.encode = .object (Encode.mark "disabled" q.disabled ++
      [("key", Encode.text q.key), ("value", Encode.text q.value)]) := by
    cases hd : q.disabled <;>
      simp (disch := decide) [QueryParameter.encode, Value.ofFields, Encode.mark, hd]
  exact record_ofFields order (.mark rfl rfl <| .field rfl rfl <| .field rfl rfl .nil) (by simp)

theorem Decode.parts_texts (lines : List String) :
    Decode.parts (Node.ofValue (texts lines)) = .ok lines := by
  have h : Decoder.list Decoder.string (Node.ofValue (texts lines)) = .ok lines :=
    list_each fun _ _ => rfl
  unfold Decode.parts
  change variants "Parts" _ (Node.ofValue (texts lines)) = _
  exact variants_ofValue (congrArg Except.toOption h)

/-- Parts are written, and so the address is read as parts and not as a text. -/
theorem Address.decode_encode (a : Address) : Address.decode (Node.ofValue a.encode) = .ok a := by
  have order : a.encode = .object (Encode.nonEmpty "host" texts a.host ++
      (Encode.nonEmpty "path" texts a.path ++
        (Encode.nonEmpty "query" (each QueryParameter.encode) a.query ++
          [("raw", text a.raw)]))) := by
    cases hh : a.host <;> cases hp : a.path <;> cases hq : a.query <;>
      simp (disch := decide) [Address.encode, Value.ofFields, Encode.nonEmpty, hh, hp, hq]
  have query := list_each fun q (_ : q ∈ a.query) => q.decode_encode
  exact variants_ofValue (fieldsOnly_ofFields order
    (.nonEmpty rfl (Decode.parts_texts _) rfl <| .nonEmpty rfl (Decode.parts_texts _) rfl <|
      .nonEmpty rfl query rfl <| .field rfl rfl .nil))

theorem Body.decode_encode (b : Body) : Body.decode (Node.ofValue b.encode) = .ok b := by
  have order : b.encode = .object (("mode", text b.mode) ::
      (Encode.optional "raw" text b.raw ++ [])) := by
    cases h : b.raw <;> simp (disch := decide) [Body.encode, Value.ofFields, Encode.optional, h]
  exact record_ofFields order
    (.field rfl rfl <| .optional rfl (fun _ _ => rfl) rfl .nil) (by simp)

theorem Request.decode_encode (r : Request) : Request.decode (Node.ofValue r.encode) = .ok r := by
  have order : r.encode = .object (Encode.optional "body" Body.encode r.body ++
      [("header", each Header.encode r.headers), ("method", text r.method),
        ("url", r.address.encode)]) := by
    cases h : r.body <;> simp (disch := decide) [Request.encode, Value.ofFields, Encode.optional, h]
  have body (b : Body) : Decoder.option Body.decode (Node.ofValue b.encode) = .ok (some b) :=
    congrArg (some <$> ·) b.decode_encode
  exact record_ofFields order
    (.optional rfl (fun b _ => body b) rfl <|
      .field rfl (list_each fun h _ => h.decode_encode) <| .field rfl rfl <|
        .field rfl r.address.decode_encode .nil)
    (by simp)

theorem Script.decode_encode (s : Script) : Script.decode (Node.ofValue s.encode) = .ok s := by
  have order : s.encode = .object (("exec", texts s.lines) ::
      (Encode.optional "type" text s.kind ++ [])) := by
    cases h : s.kind <;> simp (disch := decide) [Script.encode, Value.ofFields, Encode.optional, h]
  exact record_ofFields order
    (.field rfl (Decode.parts_texts _) <| .optional rfl (fun _ _ => rfl) rfl .nil) (by simp)

theorem Event.decode_encode (e : Event) : Event.decode (Node.ofValue e.encode) = .ok e := by
  have order : e.encode = .object [("listen", text e.listen), ("script", e.script.encode)] := by
    simp (disch := decide) [Event.encode, Value.ofFields]
  exact record_ofFields order
    (.field rfl rfl <| .field rfl e.script.decode_encode .nil) (by simp)

theorem Info.decode_encode (i : Info) : Info.decode (Node.ofValue i.encode) = .ok i := by
  have order : i.encode = .object (Encode.optional "description" text i.description ++
      ("name", text i.name) :: (Encode.optional "schema" text i.schema ++ [])) := by
    cases hd : i.description <;> cases hs : i.schema <;>
      simp (disch := decide) [Info.encode, Value.ofFields, Encode.optional, hd, hs]
  exact record_ofFields order
    (.optional rfl (fun _ _ => rfl) rfl <| .field rfl rfl <|
      .optional rfl (fun _ _ => rfl) rfl .nil)
    (by simp)

theorem encodeItems_eq_map (items : List Item) : encodeItems items = items.map Item.encode := by
  induction items with
  | nil => rfl
  | cons i rest ih => rw [encodeItems, ih, List.map_cons]

theorem encodeFolder_eq (items : Option (List Item)) :
    encodeFolder items = Encode.optional "item" (each Item.encode) items := by
  cases items with
  | none => rfl
  | some items => rw [encodeFolder, encodeItems_eq_map]; rfl

theorem Item.encode_eq (i : Item) :
    i.encode = .object (Encode.nonEmpty "event" (each Event.encode) i.events ++
      (Encode.optional "item" (each Item.encode) i.items ++ ("name", text i.name) ::
        (Encode.optional "request" Request.encode i.request ++
          (Encode.nonEmpty "variable" (each Variable.encode) i.vars ++ [])))) := by
  obtain ⟨name, items, request, vars, events⟩ := i
  rw [Item.encode, encodeFolder_eq]
  cases items <;> cases request <;> cases vars <;> cases events <;>
    simp (disch := decide) [Value.ofFields, Encode.optional, Encode.nonEmpty]

/-- An item among others is written within the object that is written of their folder. -/
theorem Item.height_encode_lt {i child : Item} {items : List Item} (hi : i.items = some items)
    (hc : child ∈ items) :
    (Node.ofValue child.encode).height < (Node.ofValue i.encode).height := by
  have folder : ("item", each Item.encode items) ∈
      Encode.optional "item" (each Item.encode) i.items := by
    rw [hi]
    exact List.mem_singleton_self _
  rw [i.encode_eq]
  calc
    _ ≤ Node.heightItems (Node.ofItems (items.map Item.encode)) :=
      Node.height_le_heightItems (List.mem_map_of_mem hc)
    _ < (Node.ofValue (each Item.encode items)).height := Nat.lt_succ_self _
    _ ≤ _ := Node.height_le_heightFields
      (List.mem_append_right _ (List.mem_append_left _ folder))
    _ < _ := Nat.lt_succ_self _

theorem Item.decodeWithin_encode {depth : Nat} (i : Item)
    (h : (Node.ofValue i.encode).height ≤ depth) :
    Item.decodeWithin depth (Node.ofValue i.encode) = .ok i := by
  induction depth generalizing i with
  | zero =>
    rw [i.encode_eq] at h
    exact absurd h (Nat.not_succ_le_zero _)
  | succ depth ih =>
    have folder (items : List Item) (hi : i.items = some items) :
        Decoder.option (Decoder.list (Item.decodeWithin depth))
          (Node.ofValue (each Item.encode items)) = .ok (some items) :=
      congrArg (some <$> ·) (list_each fun child hc =>
        ih child (Nat.le_of_lt_succ (Nat.lt_of_lt_of_le (height_encode_lt hi hc) h)))
    have request (r : Request) :
        Decoder.option Request.decode (Node.ofValue r.encode) = .ok (some r) :=
      congrArg (some <$> ·) r.decode_encode
    -- only of an item that is taken apart can be seen that it is written as an object
    obtain ⟨name, items, request?, vars, events⟩ := i
    exact record_ofFields (Item.encode_eq ⟨name, items, request?, vars, events⟩)
      (.nonEmpty rfl (list_each fun e _ => e.decode_encode) rfl <|
        .optional rfl folder rfl <| .field rfl rfl <|
          .optional rfl (fun r _ => request r) rfl <|
            .nonEmpty rfl (list_each fun v _ => v.decode_encode) rfl .nil)
      (by simp)

theorem Item.decode_encode (i : Item) : Item.decode (Node.ofValue i.encode) = .ok i :=
  i.decodeWithin_encode Nat.le.refl

theorem Collection.decode_encode (c : Collection) :
    Collection.decode (Node.ofValue c.encode) = .ok c := by
  have order : c.encode = .object [("event", each Event.encode c.events), ("info", c.info.encode),
      ("item", each Item.encode c.items), ("variable", each Variable.encode c.vars)] := by
    simp (disch := decide) [Collection.encode, Value.ofFields, encodeItems_eq_map, each]
  exact record_ofFields order
    (.field rfl (list_each fun e _ => e.decode_encode) <| .field rfl c.info.decode_encode <|
      .field rfl (list_each fun i _ => i.decode_encode) <|
        .field rfl (list_each fun v _ => v.decode_encode) .nil)
    (by simp)

theorem Environment.decode_encode (e : Environment) :
    Environment.decode (Node.ofValue e.encode) = .ok e := by
  have order : e.encode = .object (Encode.optional "id" text e.id ++
      [("name", text e.name), ("values", each Variable.encode e.values)]) := by
    cases h : e.id <;>
      simp (disch := decide) [Environment.encode, Value.ofFields, Encode.optional, h]
  exact record_ofFields order
    (.optional rfl (fun _ _ => rfl) rfl <| .field rfl rfl <|
      .field rfl (list_each fun v _ => v.decode_encode) .nil)
    (by simp)

/-- What is written of a value is read as that value. So no two values are written alike, and what
is read of any tree is read again from what is written of it. -/
structure RoundTrips {α : Type} (read : Decoder α) (write : α → Value) : Prop where
  read_write : ∀ v, read (Node.ofValue (write v)) = .ok v
  distinct : ∀ v w, write v = write w → v = w
  read_again : ∀ n, (read n >>= fun v => read (Node.ofValue (write v))) = read n

theorem RoundTrips.of_read_write {α : Type} {read : Decoder α} {write : α → Value}
    (h : ∀ v, read (Node.ofValue (write v)) = .ok v) : RoundTrips read write := by
  refine ⟨h, fun v w hw => ?_, fun n => ?_⟩
  · have hv := h v
    rw [hw, h w] at hv
    exact (Except.ok.inj hv).symm
  · cases hn : read n with
    | error fault => rfl
    | ok v => exact h v

/-- Nothing of a collection or an environment, nor of any part of them, is lost in writing, and
nothing is read as another value than the one that was written, however deep the folders nest. -/
theorem roundTrips_decode_encode :
    RoundTrips Collection.decode Collection.encode ∧
    RoundTrips Environment.decode Environment.encode ∧
    RoundTrips Item.decode Item.encode ∧ RoundTrips Info.decode Info.encode ∧
    RoundTrips Variable.decode Variable.encode ∧ RoundTrips Header.decode Header.encode ∧
    RoundTrips QueryParameter.decode QueryParameter.encode ∧
    RoundTrips Request.decode Request.encode ∧ RoundTrips Address.decode Address.encode ∧
    RoundTrips Body.decode Body.encode ∧ RoundTrips Script.decode Script.encode ∧
    RoundTrips Event.decode Event.encode :=
  ⟨.of_read_write Collection.decode_encode, .of_read_write Environment.decode_encode,
    .of_read_write Item.decode_encode, .of_read_write Info.decode_encode,
    .of_read_write Variable.decode_encode, .of_read_write Header.decode_encode,
    .of_read_write QueryParameter.decode_encode, .of_read_write Request.decode_encode,
    .of_read_write Address.decode_encode, .of_read_write Body.decode_encode,
    .of_read_write Script.decode_encode, .of_read_write Event.decode_encode⟩

end CollectionRunner
