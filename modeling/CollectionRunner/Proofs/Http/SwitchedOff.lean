import CollectionRunner.Http.Preparation
import CollectionRunner.Proofs.Template.Scanner
import Mathlib.Data.List.Basic

namespace CollectionRunner

namespace Template

/-- The key that a piece of a text asks for. -/
def Piece.key? : Piece → Option String
  | literal _ => none
  | placeholder inner => some (Text.trim (String.ofList inner))

/-- The keys of the placeholders of a text. -/
def keys (s : List Char) : List String := (pieces s).filterMap Piece.key?

/-- A text is filled in with what its placeholders ask for and nothing else. -/
theorem scan_congr {first second : String → Option String} {s : List Char}
    (h : ∀ key ∈ keys s, first key = second key) : scan first s = scan second s := by
  rw [scan_eq_pieces, scan_eq_pieces]
  refine List.flatMap_congr fun p hp => ?_
  cases p with
  | literal c => rfl
  | placeholder inner =>
    have same := h _ (List.mem_filterMap.2 ⟨_, hp, rfl⟩)
    rw [Piece.filled, Piece.filled, emitted, emitted, same]

end Template

theorem Snapshot.resolve_congr {s s' : Snapshot} {text : String}
    (h : ∀ key ∈ Template.keys text.toList, s.get? key = s'.get? key) :
    s.resolve text = s'.resolve text := by
  unfold resolve
  rw [Template.resolve_eq, Template.resolve_eq, Template.scan_congr h]

section Requests

variable {r r' : Request} {s s' : Snapshot}

/-- The headers that are sent. -/
def Request.enabledHeaders (r : Request) : List Header := r.headers.filter (! ·.disabled)

/-- The parameters that count in an address made from its parts. -/
def Address.enabledQuery (a : Address) : List QueryParameter := a.query.filter (! ·.disabled)

/-- The texts in which placeholders are replaced. -/
def Request.texts (r : Request) : List String :=
  r.enabledHeaders.map (·.value) ++ r.address.effective :: (r.body.bind Body.payload?).toList

theorem prepare_eq_of_agree (h : ∀ text ∈ r.texts, ∀ key ∈ Template.keys text.toList,
    s.get? key = s'.get? key) : prepare r s = prepare r s' := by
  have same {text : String} (ht : text ∈ r.texts) : s.resolve text = s'.resolve text :=
    Snapshot.resolve_congr (h text ht)
  have address : s.resolve r.address.effective = s'.resolve r.address.effective :=
    same (by simp [Request.texts])
  have headers : r.enabledHeaders.map (fun h => (h.key, s.resolve h.value)) =
      r.enabledHeaders.map fun h => (h.key, s'.resolve h.value) :=
    List.map_congr_left fun h hh => by
      rw [same (List.mem_append_left _ (List.mem_map_of_mem hh))]
  have body : (r.body.bind Body.payload?).map s.resolve =
      (r.body.bind Body.payload?).map s'.resolve :=
    Option.map_congr fun text ht => same (by simp [Request.texts, ht])
  unfold Request.enabledHeaders at headers
  unfold prepare
  rw [address, headers, body]

/-- Two requests of which the same is switched on. -/
structure Request.Alike (r r' : Request) : Prop where
  method : r.method = r'.method
  headers : r.enabledHeaders = r'.enabledHeaders
  address : r.address.effective = r'.address.effective
  payload : r.body.bind Body.payload? = r'.body.bind Body.payload?

theorem Request.Alike.prepare_eq (h : r.Alike r') (s : Snapshot) : prepare r s = prepare r' s := by
  have headers := h.headers
  unfold enabledHeaders at headers
  unfold prepare effectiveMethod
  rw [h.method, headers, h.address, h.payload]

end Requests

namespace Request

variable {r : Request}

theorem alike_headers (r : Request) : r.Alike { r with headers := r.enabledHeaders } where
  method := rfl
  headers := by
    unfold enabledHeaders
    rw [List.filter_filter]
    simp only [Bool.and_self]
  address := rfl
  payload := rfl

theorem alike_query (r : Request) :
    r.Alike { r with address.query := r.address.enabledQuery } where
  method := rfl
  headers := rfl
  address := by
    unfold Address.effective Address.enabledQuery
    simp only [List.filter_filter, Bool.and_self]
  payload := rfl

/-- Of an address with a raw text nothing else counts. -/
theorem alike_raw (h : r.address.raw ≠ "") (host path : List String)
    (query : List QueryParameter) :
    r.Alike { r with address := { raw := r.address.raw, host, path, query } } where
  method := rfl
  headers := rfl
  address := by simp [Address.effective, h]
  payload := rfl

theorem alike_body {b : Body} (hb : r.body = some b) (h : b.payload? = none) :
    r.Alike { r with body := none } where
  method := rfl
  headers := rfl
  address := rfl
  payload := by
    rw [hb]
    exact h

end Request

theorem Body.payload?_eq_none_iff {b : Body} :
    b.payload? = none ↔ b.mode ≠ "raw" ∨ b.raw.getD "" = "" := by
  obtain ⟨mode, raw⟩ := b
  unfold Body.payload?
  by_cases hm : mode = "raw"
  · cases raw <;> simp [hm]
  · simp [hm]

/-- What an address made from its parts has before its query. -/
def Address.base (a : Address) : String :=
  "https://" ++ String.intercalate "." a.host ++ "/" ++ String.intercalate "/" a.path

/-- Parameters as the end of an address, each with an equals sign between its key and its value. -/
def queryText (parameters : List QueryParameter) : String :=
  if parameters.isEmpty then ""
  else "?" ++ String.intercalate "&" (parameters.map fun q => q.key ++ "=" ++ q.value)

/-- The end of an address cut at its ampersands. -/
def cutQuery : List Char → List (List Char)
  | '?' :: query => query.splitOn '&'
  | _ => []

theorem Address.effective_of_parts {a : Address} (hr : a.raw = "") (hh : a.host ≠ []) :
    a.effective = a.base ++ queryText a.enabledQuery := by
  unfold effective base queryText enabledQuery QueryParameter.text
  simp [hr, hh]

theorem splitOn_intercalate_flatMap (x : Char) {parts : List (List Char)} (h : parts ≠ []) :
    ([x].intercalate parts).splitOn x = parts.flatMap (·.splitOn x) := by
  induction parts with
  | nil => exact absurd rfl h
  | cons part parts ih =>
    by_cases hp : parts = []
    · simp [hp]
    · rw [List.intercalate_cons_of_ne_nil hp, List.append_assoc, List.singleton_append,
        List.splitOn_append_cons_self, ih hp, List.flatMap_cons]

/-- The query is its parameters one after another, and none of them is lost or repeated. -/
theorem cutQuery_queryText (parameters : List QueryParameter) :
    cutQuery (queryText parameters).toList =
      parameters.flatMap fun q => (q.key ++ "=" ++ q.value).toList.splitOn '&' := by
  cases parameters with
  | nil => rfl
  | cons q parameters =>
    have text : (queryText (q :: parameters)).toList =
        '?' :: ['&'].intercalate
          ((q :: parameters).map fun q => (q.key ++ "=" ++ q.value).toList) := by
      rw [queryText, if_neg (by simp), String.toList_append, String.toList_intercalate,
        List.map_map]
      rfl
    rw [text, cutQuery, splitOn_intercalate_flatMap '&' (by simp), List.flatMap_map]

theorem Body.payload?_eq_some {b : Body} {text : String} (mode : b.mode = "raw")
    (raw : b.raw = some text) (h : text ≠ "") : b.payload? = some text := by
  simp [Body.payload?, mode, raw, h]

theorem Address.effective_of_raw {a : Address} (h : a.raw ≠ "" ∨ a.host = []) :
    a.effective = a.raw := by
  unfold effective
  rcases h with h | h
  · simp [h]
  · simp [h]

/-- What is sent depends on the variables that enabled parts ask for and on no others, and is the
same when disabled headers or parameters are taken away, when the parts of an address with a raw
text are replaced, or when a body without a payload is taken away. The headers that are sent are
those enabled, in order; the address is the raw text or made from its parts with the parameters
enabled, in order; and the body is the raw text of a body. Their placeholders are filled in. -/
theorem prepare_onlyEnabled (r : Request) (s : Snapshot) :
    (∀ s' : Snapshot, (∀ text ∈ r.texts, ∀ key ∈ Template.keys text.toList,
      s.get? key = s'.get? key) → prepare r s = prepare r s') ∧
    prepare r s = prepare { r with headers := r.enabledHeaders } s ∧
    prepare r s = prepare { r with address.query := r.address.enabledQuery } s ∧
    (r.address.raw ≠ "" → ∀ host path query, prepare r s =
      prepare { r with address := { raw := r.address.raw, host, path, query } } s) ∧
    (∀ b, r.body = some b → b.mode ≠ "raw" ∨ b.raw.getD "" = "" →
      prepare r s = prepare { r with body := none } s ∧ (prepare r s).body = none) ∧
    (∀ b text, r.body = some b → b.mode = "raw" → b.raw = some text → text ≠ "" →
      (prepare r s).body = some (s.resolve text)) ∧
    (prepare r s).headers = r.enabledHeaders.map (fun h => (h.key, s.resolve h.value)) ∧
    (r.address.raw ≠ "" ∨ r.address.host = [] →
      (prepare r s).url = s.resolve r.address.raw) ∧
    (r.address.raw = "" → r.address.host ≠ [] →
      (prepare r s).url =
        s.resolve (r.address.base ++ queryText r.address.enabledQuery) ∧
      cutQuery (queryText r.address.enabledQuery).toList =
        r.address.enabledQuery.flatMap fun q => (q.key ++ "=" ++ q.value).toList.splitOn '&') ∧
    (prepare r s).method =
      if Text.trim r.method = "" then "GET" else (Text.trim r.method).toUpper := by
  refine ⟨?_, ?_, ?_, ?_, ?_, ?_, rfl, ?_, ?_, rfl⟩
  · exact fun s' h => prepare_eq_of_agree h
  · exact r.alike_headers.prepare_eq s
  · exact r.alike_query.prepare_eq s
  · exact fun h host path query => (Request.alike_raw h host path query).prepare_eq s
  · intro b hb h
    have without := (Request.alike_body hb (Body.payload?_eq_none_iff.2 h)).prepare_eq s
    exact ⟨without, congrArg SentRequest.body without⟩
  · intro b text hb mode raw h
    unfold prepare
    rw [hb, Option.bind_some, Body.payload?_eq_some mode raw h, Option.map_some]
  · exact fun h => congrArg s.resolve (Address.effective_of_raw h)
  · exact fun hr hh =>
      ⟨congrArg s.resolve (Address.effective_of_parts hr hh), cutQuery_queryText _⟩

/-- A disabled header asks for a token, and a body that is not raw does so too. -/
def offRequest : Request where
  headers := [{ key := "X-Token", value := "\x7b\x7btoken\x7d\x7d", disabled := true },
    { key := "Accept", value := "*/*" }]
  body := some { mode := "formdata", raw := some "\x7b\x7btoken\x7d\x7d" }
  address := { raw := "http://\x7b\x7bhost\x7d\x7d/x", host := ["\x7b\x7btoken\x7d\x7d"] }

/-- An address of parts, in which a parameter is disabled, and a body that asks for a token. -/
def partsRequest : Request where
  address :=
    { host := ["\x7b\x7bhost\x7d\x7d", "test"]
      path := ["v1"]
      query := [{ key := "page", value := "2" }, { key := "debug", value := "1", disabled := true },
        { key := "size", value := "9" }] }
  body := some { mode := "raw", raw := some "token=\x7b\x7btoken\x7d\x7d" }

/-- Whatever the token is, the first request sends nothing of it; the second sends it in its
body. -/
theorem prepare_onlyEnabled_token :
    let s := Snapshot.empty.push "Test"
      [{ key := "host", value := "api" }, { key := "token", value := "old" }]
    let s' := Snapshot.empty.push "Test"
      [{ key := "host", value := "api" }, { key := "token", value := "new" }]
    s.get? "token" ≠ s'.get? "token" ∧
    ((∀ text ∈ offRequest.texts, ∀ key ∈ Template.keys text.toList, s.get? key = s'.get? key) ∧
      prepare offRequest s = prepare offRequest s') ∧
    (offRequest.address.raw ≠ "" ∧
      prepare offRequest s = prepare { offRequest with address.host := [] } s ∧
      (prepare offRequest s).url = "http://api/x" ∧
      (prepare offRequest s).headers = [("Accept", "*/*")]) ∧
    (("formdata" ≠ "raw" ∨ "\x7b\x7btoken\x7d\x7d" = "") ∧
      prepare offRequest s = prepare { offRequest with body := none } s ∧
      (prepare offRequest s).body = none) ∧
    (partsRequest.address.raw = "" ∧ partsRequest.address.host ≠ [] ∧
      (prepare partsRequest s).url = "https://api.test/v1?page=2&size=9") ∧
    "token=\x7b\x7btoken\x7d\x7d" ≠ "" ∧ (prepare partsRequest s).body = some "token=old" := by
  intro s s'
  have agree : ∀ text ∈ offRequest.texts, ∀ key ∈ Template.keys text.toList,
      s.get? key = s'.get? key := by decide +kernel
  have raw : offRequest.address.raw ≠ "" := by decide
  have unsent : "formdata" ≠ "raw" ∨ "\x7b\x7btoken\x7d\x7d" = "" := by decide
  have noRaw : partsRequest.address.raw = "" := rfl
  have someHost : partsRequest.address.host ≠ [] := by decide
  have someText : "token=\x7b\x7btoken\x7d\x7d" ≠ "" := by decide
  obtain ⟨snapshots, -, -, replaced, removed, -, headers, url, -⟩ :=
    prepare_onlyEnabled offRequest s
  obtain ⟨-, -, -, -, -, body, -, -, parts, -⟩ := prepare_onlyEnabled partsRequest s
  exact ⟨by decide, ⟨agree, snapshots s' agree⟩,
    ⟨raw, replaced raw [] [] [], (url (.inl raw)).trans (by decide +kernel),
      headers.trans (by decide +kernel)⟩,
    ⟨unsent, removed _ rfl unsent⟩,
    ⟨noRaw, someHost, (parts noRaw someHost).1.trans (by decide +kernel)⟩, someText,
    (body _ _ rfl rfl rfl someText).trans (by decide +kernel)⟩

end CollectionRunner
