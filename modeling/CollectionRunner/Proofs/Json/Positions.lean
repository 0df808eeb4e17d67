import CollectionRunner.Proofs.Json.Document

namespace CollectionRunner.Json

/-- A step from a container to a member of it. An index is a machine word. -/
inductive Step where
  | key (name : String)
  | index (i : UInt64)
  deriving DecidableEq, Repr

/-- What a step is written as in a path; an index in decimal digits. -/
def Step.text : Step → String
  | .key name => name
  | .index i => toString i.toNat

/-- Where steps lead to in a value. -/
inductive Leads : List Step → Value → Value → Prop
  | here {v : Value} : Leads [] v v
  | member {name : String} {fields : List (String × Value)} {u v : Value} {steps : List Step}
    (h : (name, u) ∈ fields) (later : Leads steps u v) :
    Leads (.key name :: steps) (.object fields) v
  | item {i : UInt64} {items : List Value} {u v : Value} {steps : List Step}
    (h : items[i.toNat]? = some u) (later : Leads steps u v) :
    Leads (.index i :: steps) (.array items) v

/-- The steps of a position with points between them. -/
def joined (steps : List Step) : String := String.intercalate "." (steps.map Step.text)

theorem segmentsFrom_eq (segment rest : List Char) :
    segmentsFrom segment rest = List.splitOnPPrepend (· == '.') rest segment := by
  fun_induction segmentsFrom segment rest with
  | case1 segment => rfl
  | case2 segment rest ih =>
    rw [ih, List.splitOnPPrepend_cons_pos (by decide)]
    rfl
  | case3 segment c rest hne ih =>
    have other : ¬ (c == '.') = true := by simpa using hne
    rw [ih, List.splitOnPPrepend_cons_eq_if, if_neg other]

theorem segments_eq (path : String) :
    segments path = (path.toList.splitOn '.').map String.ofList := by
  rw [segments, segmentsFrom_eq]
  rfl

theorem segments_append (p q : String) :
    segments (p ++ "." ++ q) = segments p ++ segments q := by
  have text : (p ++ "." ++ q).toList = p.toList ++ '.' :: q.toList := by simp
  rw [segments_eq, segments_eq, segments_eq, text, List.splitOn_append_cons_self, List.map_append]

theorem Step.point_notMem_text {step : Step} (h : ∀ name, step = .key name → '.' ∉ name.toList) :
    '.' ∉ step.text.toList := by
  cases step with
  | key name => exact h name rfl
  | index i =>
    intro point
    exact absurd (Text.isDigit_of_mem_toString point) (by decide)

/-- The segments of a written position are its steps. -/
theorem segments_joined {steps : List Step} (some_step : steps ≠ [])
    (keys : ∀ name, .key name ∈ steps → '.' ∉ name.toList) :
    segments (joined steps) = steps.map Step.text := by
  have split : ((joined steps).toList).splitOn '.' = (steps.map Step.text).map String.toList := by
    rw [joined, String.toList_intercalate]
    refine List.splitOn_intercalate '.' ?_ (by simpa using some_step)
    intro l hl
    obtain ⟨_, ht, rfl⟩ := List.mem_map.1 hl
    obtain ⟨step, hs, rfl⟩ := List.mem_map.1 ht
    exact Step.point_notMem_text fun name he => keys name (he ▸ hs)
  rw [segments_eq, split]
  simp

theorem walk?_append (first second : List String) (v : Value) :
    walk? (first ++ second) v = (walk? first v).bind (walk? second) := by
  induction first generalizing v with
  | nil => rfl
  | cons s first ih =>
    simp only [List.cons_append, walk?, Option.bind_assoc]
    exact congrArg _ (funext ih)

/-- A path leads where its two halves lead one after the other. -/
theorem lookup_append {root v : Value} {p q : String} (hp : p ≠ "") (hq : q ≠ "") :
    lookup root (p ++ "." ++ q) = .ok v ↔
      ∃ u, lookup root p = .ok u ∧ lookup u q = .ok v := by
  have whole : p ++ "." ++ q ≠ "" := by simp
  simp only [lookup_eq_ok_iff, hp, hq, whole, false_and, false_or, ne_eq, not_false_eq_true,
    true_and, segments_append, walk?_append, Option.bind_eq_some_iff]

theorem Leads.walk? {steps : List Step} {root v : Value} (h : Leads steps root v)
    (sound : root.Sound) : Json.walk? (steps.map Step.text) root = some v := by
  induction h with
  | here => rfl
  | @member name fields u v steps h later ih =>
    obtain ⟨distinct, members⟩ := Value.sound_object.1 sound
    have found : step? (Step.key name).text (.object fields) = some u := field?_of_mem distinct h
    rw [List.map_cons, Json.walk?, found]
    exact ih (members (name, u) h)
  | @item i items u v steps h later ih =>
    have found : step? (Step.index i).text (.array items) = some u := by
      rw [step?, Step.text, Text.natBelow?_toString i.toNat_lt]
      exact h
    rw [List.map_cons, Json.walk?, found]
    exact ih (Value.sound_array.1 sound u (List.mem_of_getElem? h))

/-- A segment that leads somewhere is a step. -/
theorem leads_of_step? {segment : String} {v w : Value} (h : step? segment v = some w) :
    ∃ step, ∀ {steps u}, Leads steps w u → Leads (step :: steps) v u := by
  cases v with
  | array items =>
    obtain ⟨i, hi, hw⟩ := Option.bind_eq_some_iff.1 h
    have word : (UInt64.ofNat i).toNat = i := UInt64.toNat_ofNat_of_lt' (Text.natBelow?_lt hi)
    exact ⟨.index (.ofNat i), fun later => .item (by rw [word]; exact hw) later⟩
  | object fields => exact ⟨.key segment, fun later => .member (mem_of_field? h) later⟩
  | _ => cases h

theorem leads_of_walk? {segments : List String} {root v : Value}
    (h : walk? segments root = some v) : ∃ steps, Leads steps root v := by
  induction segments generalizing root with
  | nil =>
    cases h
    exact ⟨[], .here⟩
  | cons segment segments ih =>
    obtain ⟨u, hu, hv⟩ := Option.bind_eq_some_iff.1 h
    obtain ⟨steps, later⟩ := ih hv
    obtain ⟨step, first⟩ := leads_of_step? hu
    exact ⟨step :: steps, first later⟩

theorem eq_notFound_of_lookup {root : Value} {path : String} {e : PathError}
    (h : lookup root path = .error e) : e = .notFound path := by
  unfold lookup at h
  split at h
  · cases h
  · split at h
    · cases h
    · cases h
      rfl

/-- A path leads where its two halves lead one after the other; every part of a document whose
position has no point in its keys is found by that position, unless it is written as the empty
text; and what a path finds is a part of the document, or else the whole path is reported. -/
theorem lookup_positions (root : Document) :
    (∀ p q v, p ≠ "" → q ≠ "" →
      (lookup root.1 (p ++ "." ++ q) = .ok v ↔
        ∃ u, lookup root.1 p = .ok u ∧ lookup u q = .ok v)) ∧
    (∀ steps v, Leads steps root.1 v → (∀ name, .key name ∈ steps → '.' ∉ name.toList) →
      joined steps ≠ "" → lookup root.1 (joined steps) = .ok v) ∧
    ∀ path, match lookup root.1 path with
      | .ok v => ∃ steps, Leads steps root.1 v
      | .error e => e = .notFound path := by
  refine ⟨fun p q v hp hq => lookup_append hp hq, fun steps v leads keys written => ?_,
    fun path => ?_⟩
  · have some_step : steps ≠ [] := by
      rintro rfl
      exact written rfl
    rw [lookup_eq_ok_iff, segments_joined some_step keys]
    exact .inr ⟨written, leads.walk? root.2⟩
  · split
    · rename_i v h
      rcases lookup_eq_ok_iff.1 h with ⟨-, rfl⟩ | ⟨-, h⟩
      · exact ⟨[], .here⟩
      · exact leads_of_walk? h
    · rename_i e h
      exact eq_notFound_of_lookup h

/-- The document `{"": [{"0": true}]}`: an empty key, an index, and a key that looks like one. -/
theorem lookup_positions_emptyKey :
    let leaf : Value := .bool true
    let inner : Value := .object [("0", leaf)]
    let root : Value := .object [("", .array [inner])]
    joined [.key "", .index 0, .key "0"] = ".0.0" ∧ lookup root ".0.0" = .ok leaf ∧
    (∃ u, lookup root ".0" = .ok u ∧ lookup u "0" = .ok leaf) ∧
    ∃ steps, Leads steps root leaf := by
  intro leaf inner root
  obtain ⟨halves, found, only⟩ := lookup_positions ⟨root, by simp [root, inner, leaf]⟩
  have leads : Leads [.key "", .index 0, .key "0"] root leaf :=
    .member (u := .array [inner]) (by simp) (.item (u := inner) rfl (.member (by simp) .here))
  have text : joined [.key "", .index 0, .key "0"] = ".0.0" := by decide +kernel
  have whole : lookup root ".0.0" = .ok leaf :=
    text ▸ found _ leaf leads (by simp) (by decide +kernel)
  have part := only ".0.0"
  dsimp only at part
  rw [whole] at part
  exact ⟨text, whole, (halves ".0" "0" leaf (by decide) (by decide)).1 whole, part⟩

end CollectionRunner.Json
