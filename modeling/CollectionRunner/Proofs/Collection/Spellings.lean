import CollectionRunner.Proofs.Collection.RoundTrip
import CollectionRunner.Proofs.Http.SwitchedOff

namespace CollectionRunner

open Json Encode Decoder

namespace Text

theorem linesFrom_of_notMem {s : List Char} (h : '\n' ∉ s) (line : List Char) :
    linesFrom line s = if line.reverse ++ s = [] then [] else [line.reverse ++ s] := by
  induction s generalizing line with
  | nil => cases line <;> simp [linesFrom]
  | cons c rest ih =>
    obtain ⟨hc, hr⟩ : '\n' ≠ c ∧ '\n' ∉ rest := by simpa using h
    rw [linesFrom, ih hr (c :: line)]
    · simp
    · exact fun eq => hc eq.symm

theorem lines_of_notMem {s : String} (h : '\n' ∉ s.toList) :
    lines s = if s = "" then [] else [s] := by
  rw [lines, linesFrom_of_notMem h]
  by_cases empty : s = "" <;> simp [empty]

/-- A text of one line comes back from its lines whatever stands between them. -/
theorem intercalate_lines {s : String} (h : '\n' ∉ s.toList) (separator : String) :
    String.intercalate separator (lines s) = s := by
  rw [lines_of_notMem h]
  split
  · next empty => rw [empty]; rfl
  · exact String.intercalate_singleton

theorem notMem_intercalate {c : Char} {separator : String} {parts : List String}
    (hs : c ∉ separator.toList) (hp : ∀ part ∈ parts, c ∉ part.toList) :
    c ∉ (String.intercalate separator parts).toList := by
  rw [String.toList_intercalate]
  induction parts with
  | nil => simp
  | cons part rest ih =>
    obtain ⟨here, later⟩ := List.forall_mem_cons.1 hp
    by_cases none : rest = []
    · simpa [none] using here
    · rw [List.map_cons, List.intercalate_cons_of_ne_nil (by simpa using none)]
      simp [here, hs, ih later]

end Text

/-- Ways to write parts: as a list, or as the text that they make with a separator. -/
inductive Spelled (separator : String) (parts : List String) : Value → Prop
  | listed : Spelled separator parts (texts parts)
  | joined : Spelled separator parts (text (String.intercalate separator parts))

theorem Decode.parts_text (s : String) :
    Decode.parts (Node.ofValue (text s)) = .ok (Text.lines s) := by
  unfold Decode.parts
  change variants "Parts" _ (Node.ofValue (text s)) = _
  exact variants_ofValue rfl

/-- However parts of one line are written, what is read makes the same text. -/
theorem Spelled.parts {separator : String} {parts : List String} {value : Value}
    (h : Spelled separator parts value) (one_line : ∀ part ∈ parts, '\n' ∉ part.toList)
    (hs : '\n' ∉ separator.toList) :
    ∃ read, Decode.parts (Node.ofValue value) = .ok read ∧
      String.intercalate separator read = String.intercalate separator parts := by
  cases h with
  | listed => exact ⟨parts, Decode.parts_texts parts, rfl⟩
  | joined =>
    exact ⟨_, Decode.parts_text _, Text.intercalate_lines (Text.notMem_intercalate hs one_line) _⟩

/-- The fields of an object with the parts of an address. -/
def addressFields (raw : Option String) (host path : Value) (query : Option Value) :
    List (String × Value) :=
  Encode.optional "raw" text raw ++ [("host", host), ("path", path)] ++
    Encode.optional "query" id query

/-- The parameters that a query in an object stands for, none when there is no query. -/
def queryOf : Option Value → Except Fault (List QueryParameter)
  | none => .ok []
  | some query => Decoder.list QueryParameter.decode (Node.ofValue query)

/-- An address with the part that a field has of another one. -/
def Address.take (whole : Address) (name : String) (a : Address) : Address :=
  if name = "host" then { a with host := whole.host }
  else if name = "path" then { a with path := whole.path }
  else if name = "query" then { a with query := whole.query }
  else { a with raw := whole.raw }

section Take

variable (whole a : Address)

theorem Address.take_raw : whole.take "raw" a = { a with raw := whole.raw } := by simp [take]

theorem Address.take_host : whole.take "host" a = { a with host := whole.host } := by simp [take]

theorem Address.take_path : whole.take "path" a = { a with path := whole.path } := by simp [take]

theorem Address.take_query : whole.take "query" a = { a with query := whole.query } := by
  simp [take]

theorem Address.take_comm (x y : String) :
    whole.take x (whole.take y a) = whole.take y (whole.take x a) := by
  unfold take
  split_ifs <;> rfl

end Take

theorem mem_optional {α : Type} {name : String} {write : α → Value} {o : Option α}
    {field : String × Value} :
    field ∈ Encode.optional name write o ↔ ∃ v, o = some v ∧ field = (name, write v) := by
  cases o <;> simp [Encode.optional]

/-- An object without a raw text is read as the address of its parts, whatever their order. -/
theorem Address.decode_addressFields {raw : Option String} {host path : Value}
    {query : Option Value} {a : Address} {fields : List (String × Value)}
    (order : fields.Perm (addressFields raw host path query)) (no_raw : raw.getD "" = a.raw)
    (hh : Decode.parts (Node.ofValue host) = .ok a.host)
    (hp : Decode.parts (Node.ofValue path) = .ok a.path) (hq : queryOf query = .ok a.query) :
    Address.decode (Node.ofValue (.object fields)) = .ok a := by
  have nodup : (fields.map (·.1)).Nodup := by
    refine (order.map _).nodup_iff.2 ?_
    cases raw <;> cases query <;> simp [addressFields, Encode.optional]
  have filled : fields.foldl (fun b field => a.take field.1 b) {} = a := by
    rw [order.foldl_eq' fun _ _ _ _ _ => a.take_comm _ _ _]
    obtain ⟨raw_text, labels, segments, parameters⟩ := a
    cases raw <;> cases query <;> simp_all [addressFields, Encode.optional, take, queryOf]
  refine variants_ofValue ((fieldsOnly_object nodup ?_).trans (congrArg some filled))
  refine .of_puts a.take (fun field hf => ?_) {}
  have hf := order.subset hf
  simp only [addressFields, List.mem_append, List.mem_cons, List.not_mem_nil, or_false] at hf
  rcases hf with (hf | rfl | rfl) | hf
  · obtain ⟨s, rfl, rfl⟩ := mem_optional.1 hf
    refine ⟨_, rfl, fun b => ?_⟩
    rw [take_raw, ← no_raw]
    rfl
  · refine ⟨_, rfl, fun b => ?_⟩
    rw [take_host]
    exact congrArg (· >>= fun v => pure { b with host := v }) hh
  · refine ⟨_, rfl, fun b => ?_⟩
    rw [take_path]
    exact congrArg (· >>= fun v => pure { b with path := v }) hp
  · obtain ⟨value, rfl, rfl⟩ := mem_optional.1 hf
    refine ⟨_, rfl, fun b => ?_⟩
    rw [take_query]
    exact congrArg (· >>= fun v => pure { b with query := v }) hq

theorem Address.decode_text (s : String) :
    Address.decode (Node.ofValue (text s)) = .ok { raw := s } :=
  variants_ofValue rfl

theorem Address.decode_raw (s : String) :
    Address.decode (Node.ofValue (.object [("raw", text s)])) = .ok { raw := s } :=
  variants_ofValue (fieldsOnly_object (List.nodup_singleton _) (.field rfl rfl .nil))

/-- A text and an object with that raw text are read as one address. Of a host and a path with parts
of one line it makes no difference which of them are lists and which are texts, nor in which order
the fields of the object stand: without a raw text they make the same address, with the enabled
parameters at its end. -/
theorem Address.spellings_agree :
    (∀ s, Address.decode (Node.ofValue (text s)) = .ok { raw := s } ∧
      Address.decode (Node.ofValue (.object [("raw", text s)])) = .ok { raw := s }) ∧
    ∀ host path : List String, String.intercalate "." host ≠ "" →
      (∀ part ∈ host ++ path, '\n' ∉ part.toList) →
      ∀ (raw : Option String) (query : Option Value) (parameters : List QueryParameter),
      raw.getD "" = "" → queryOf query = .ok parameters →
      ∀ hostValue pathValue, Spelled "." host hostValue → Spelled "/" path pathValue →
      ∀ fields, fields.Perm (addressFields raw hostValue pathValue query) →
      ∃ a, Address.decode (Node.ofValue (.object fields)) = .ok a ∧
        a.effective = "https://" ++ String.intercalate "." host ++ "/" ++
          String.intercalate "/" path ++ queryText (parameters.filter (! ·.disabled)) := by
  refine ⟨fun s => ⟨Address.decode_text s, Address.decode_raw s⟩, ?_⟩
  intro host path some_host one_line raw query parameters no_raw hq hostValue pathValue hh hp
    fields order
  obtain ⟨labels, host_read, same_host⟩ :=
    hh.parts (fun part hm => one_line part (List.mem_append_left _ hm)) (by decide)
  obtain ⟨segments, path_read, same_path⟩ :=
    hp.parts (fun part hm => one_line part (List.mem_append_right _ hm)) (by decide)
  have some_label : labels ≠ [] := by
    rintro rfl
    exact some_host (same_host ▸ rfl)
  let a : Address := { host := labels, path := segments, query := parameters }
  refine ⟨a, Address.decode_addressFields order no_raw host_read path_read hq, ?_⟩
  rw [Address.effective_of_parts rfl some_label, Address.base, same_host, same_path]
  rfl

/-- A host in one text and a path in a list, with a parameter that is switched off. -/
theorem Address.spellings_agree_page :
    let query := each QueryParameter.encode
      [{ key := "page", value := "2" }, { key := "debug", value := "1", disabled := true }]
    Spelled "." ["api", "test"] (text "api.test") ∧ Spelled "/" ["v1", ""] (texts ["v1", ""]) ∧
      ∃ a, Address.decode (Node.ofValue (.object
          [("raw", text ""), ("host", text "api.test"), ("path", texts ["v1", ""]),
            ("query", query)])) = .ok a ∧
        a.effective = "https://api.test/v1/?page=2" := by
  intro query
  have host : Spelled "." ["api", "test"] (text "api.test") := .joined
  have path : Spelled "/" ["v1", ""] (texts ["v1", ""]) := .listed
  have parameters : queryOf (some query) = .ok
      [{ key := "page", value := "2" }, { key := "debug", value := "1", disabled := true }] :=
    list_each fun q _ => q.decode_encode
  obtain ⟨a, read, effective⟩ := Address.spellings_agree.2 ["api", "test"] ["v1", ""] (by decide)
    (by decide) (some "") _ _ rfl parameters _ _ host path _ .rfl
  exact ⟨host, path, a, read, effective.trans (by decide +kernel)⟩

end CollectionRunner
