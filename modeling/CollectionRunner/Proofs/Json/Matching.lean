import CollectionRunner.Assertion
import CollectionRunner.Proofs.Json.Document
import Mathlib.Data.List.Perm.Subperm

namespace CollectionRunner.Json

/-- A statement about values follows from one about their members. -/
theorem Value.members_induction {motive : Value → Prop}
    (scalar : ∀ v : Value, v.isScalar = true → motive v)
    (array : ∀ items : List Value, (∀ v ∈ items, motive v) → motive (.array items))
    (object : ∀ fields : List (String × Value), (∀ f ∈ fields, motive f.2) →
      motive (.object fields)) (v : Value) : motive v := by
  refine @Value.rec motive (fun items => ∀ v ∈ items, motive v)
    (fun fields => ∀ f ∈ fields, motive f.2) (fun f => motive f.2)
    (scalar _ rfl) (fun _ => scalar _ rfl) (fun _ => scalar _ rfl) (fun _ => scalar _ rfl)
    array object ?_ ?_ ?_ ?_ ?_ v
  · simp
  · exact fun v rest hv hr => List.forall_mem_cons.2 ⟨hv, hr⟩
  · simp
  · exact fun f rest hf hr => List.forall_mem_cons.2 ⟨hf, hr⟩
  · exact fun _ _ h => h

/-- How two values match: scalars by their natural texts, arrays member by member in their order,
and objects member by member by their keys. -/
inductive Matches : Value → Value → Prop
  | scalar {v w : Value} (hv : v.isScalar = true) (hw : w.isScalar = true)
    (text : v.naturalText = w.naturalText) : Matches v w
  | array {left right : List Value} (size : left.length = right.length)
    (members : ∀ (i : Nat) (v w : Value), left[i]? = some v → right[i]? = some w → Matches v w) :
    Matches (.array left) (.array right)
  | object {left right : List (String × Value)} (size : left.length = right.length)
    (keys : ∀ f ∈ left, (field? f.1 right).isSome = true)
    (members : ∀ f ∈ left, ∀ w, field? f.1 right = some w → Matches f.2 w) :
    Matches (.object left) (.object right)

theorem similarItems_iff {left right : List Value} :
    similarItems left right = true ↔
      left.length = right.length ∧
        ∀ (i : Nat) (v w : Value), left[i]? = some v → right[i]? = some w → v.similar w = true := by
  induction left generalizing right with
  | nil => cases right <;> simp [similarItems]
  | cons l left ih =>
    cases right with
    | nil => simp [similarItems]
    | cons r right =>
      rw [similarItems, Bool.and_eq_true, ih, List.length_cons, List.length_cons,
        Nat.add_right_cancel_iff, and_left_comm]
      refine and_congr_right fun _ => ⟨fun ⟨h, hr⟩ i v w hv hw => ?_, fun h => ⟨?_, ?_⟩⟩
      · cases i with
        | zero =>
          cases hv
          cases hw
          exact h
        | succ i => exact hr i v w hv hw
      · exact h 0 l r rfl rfl
      · exact fun i v w hv hw => h (i + 1) v w hv hw

theorem similarFields_iff {left right : List (String × Value)} :
    similarFields left right = true ↔
      (∀ f ∈ left, (field? f.1 right).isSome = true) ∧
        ∀ f ∈ left, ∀ w, field? f.1 right = some w → f.2.similar w = true := by
  induction left with
  | nil => simp [similarFields]
  | cons f left ih =>
    obtain ⟨k, l⟩ := f
    rw [similarFields, Bool.and_eq_true, ih, List.forall_mem_cons, List.forall_mem_cons,
      and_and_and_comm]
    refine and_congr_left fun _ => ?_
    cases field? k right <;> simp

theorem similar_scalar {v w : Value} (hv : v.isScalar = true) :
    v.similar w = true ↔ w.isScalar = true ∧ v.naturalText = w.naturalText := by
  cases v <;> cases w <;> simp_all [Value.similar, Value.isScalar]

theorem similar_of_matches {v w : Value} (h : Matches v w) : v.similar w = true := by
  induction h with
  | scalar hv hw text => exact (similar_scalar hv).2 ⟨hw, text⟩
  | array size members ih =>
    rw [Value.similar]
    exact similarItems_iff.2 ⟨size, ih⟩
  | object size keys members ih =>
    rw [Value.similar, Bool.and_eq_true, beq_iff_eq]
    exact ⟨size, similarFields_iff.2 ⟨keys, ih⟩⟩

theorem matches_of_similar {v w : Value} (h : v.similar w = true) : Matches v w := by
  induction v using Value.members_induction generalizing w with
  | scalar v hv =>
    obtain ⟨hw, text⟩ := (similar_scalar hv).1 h
    exact .scalar hv hw text
  | array left ih =>
    cases w with
    | array right =>
      rw [Value.similar] at h
      obtain ⟨size, members⟩ := similarItems_iff.1 h
      exact .array size fun i v w hv hw => ih v (List.mem_of_getElem? hv) (members i v w hv hw)
    | _ => cases h
  | object left ih =>
    cases w with
    | object right =>
      rw [Value.similar, Bool.and_eq_true, beq_iff_eq] at h
      obtain ⟨keys, members⟩ := similarFields_iff.1 h.2
      exact .object h.1 keys fun f hf w hw => ih f hf (members f hf w hw)
    | _ => cases h

/-- Objects of one size have the same keys if the one has no key twice and the other has all of
its keys. -/
theorem perm_keys {left right : List (String × Value)} (distinct : (left.map (·.1)).Nodup)
    (size : left.length = right.length) (keys : ∀ f ∈ left, (field? f.1 right).isSome = true) :
    (left.map (·.1)).Perm (right.map (·.1)) := by
  have sub : left.map (·.1) ⊆ right.map (·.1) := by
    intro key hk
    obtain ⟨f, hf, rfl⟩ := List.mem_map.1 hk
    exact field?_isSome_iff.1 (keys f hf)
  exact (distinct.subperm sub).perm_of_length_le (by simp [size])

namespace Matches

variable {u v w : Value}

theorem refl (h : v.Sound) : Matches v v := by
  induction h with
  | scalar h => exact .scalar h h rfl
  | array members ih =>
    refine .array rfl fun i v w hv hw => ?_
    rw [hv] at hw
    cases hw
    exact ih v (List.mem_of_getElem? hv)
  | object distinct members ih =>
    refine .object rfl (fun f hf => ?_) fun f hf w hw => ?_
    · exact field?_isSome_iff.2 (List.mem_map_of_mem hf)
    · rw [field?_of_mem distinct hf] at hw
      cases hw
      exact ih f hf

theorem symm (sound : v.Sound) (h : Matches v w) : Matches w v := by
  induction h with
  | scalar hv hw text => exact .scalar hw hv text.symm
  | array size members ih =>
    exact .array size.symm fun i w v hw hv =>
      ih i v w hv hw (Value.sound_array.1 sound v (List.mem_of_getElem? hv))
  | @object left right size keys members ih =>
    obtain ⟨distinct, sound⟩ := Value.sound_object.1 sound
    -- the keys are the same, so those on the right are distinct too
    have same := perm_keys distinct size keys
    refine .object size.symm (fun f hf => ?_) fun f hf v hv => ?_
    · exact field?_isSome_iff.2 (same.mem_iff.2 (List.mem_map_of_mem hf))
    · have mem := mem_of_field? hv
      have found : field? f.1 right = some f.2 := field?_of_mem (same.nodup_iff.1 distinct) hf
      exact ih (f.1, v) mem f.2 found (sound (f.1, v) mem)

theorem trans (h : Matches u v) (h' : Matches v w) : Matches u w := by
  induction h generalizing w with
  | scalar hu hv text =>
    obtain ⟨hw, text'⟩ := (similar_scalar hv).1 (similar_of_matches h')
    exact .scalar hu hw (text.trans text')
  | @array left middle size members ih =>
    cases h' with
    | scalar hv => cases hv
    | array size' members' =>
      refine .array (size.trans size') fun i u w hu hw => ?_
      have inside : i < middle.length := size ▸ (List.getElem?_eq_some_iff.1 hu).1
      have hm : middle[i]? = some middle[i] := List.getElem?_eq_getElem inside
      exact ih i u middle[i] hu hm (members' i middle[i] w hm hw)
  | @object left middle size keys members ih =>
    cases h' with
    | scalar hv => cases hv
    | object size' keys' members' =>
      refine .object (size.trans size') (fun f hf => ?_) fun f hf w hw => ?_
      · obtain ⟨m, hm⟩ := Option.isSome_iff_exists.1 (keys f hf)
        exact keys' (f.1, m) (mem_of_field? hm)
      · obtain ⟨m, hm⟩ := Option.isSome_iff_exists.1 (keys f hf)
        exact ih f hf m hm (members' (f.1, m) (mem_of_field? hm) w hw)

end Matches

theorem similar_object {left right : List (String × Value)} (hl : (left.map (·.1)).Nodup)
    (hr : (right.map (·.1)).Nodup) :
    (Value.object left).similar (.object right) = true ↔
      (∀ key, key ∈ left.map (·.1) ↔ key ∈ right.map (·.1)) ∧
        ∀ key v w, (key, v) ∈ left → (key, w) ∈ right → v.similar w = true := by
  rw [Value.similar, Bool.and_eq_true, beq_iff_eq, similarFields_iff]
  constructor
  · rintro ⟨size, keys, members⟩
    exact ⟨fun key => (perm_keys hl size keys).mem_iff, fun key v w hv hw =>
      members (key, v) hv w (field?_of_mem hr hw)⟩
  · rintro ⟨keys, members⟩
    have same : (left.map (·.1)).Perm (right.map (·.1)) :=
      (List.perm_ext_iff_of_nodup hl hr).2 keys
    refine ⟨by simpa using same.length_eq, fun f hf => ?_, fun f hf w hw => ?_⟩
    · exact field?_isSome_iff.2 ((keys f.1).1 (List.mem_map_of_mem hf))
    · exact members f.1 f.2 w hf (mem_of_field? hw)

/-- A check of a path passes exactly when the path leads somewhere, to what is expected. -/
theorem assertJsonPath_eq_ok_iff {body path : String} {expected : Value} :
    assertJsonPath body path (some expected) = .ok () ↔
      ∃ root v, parse body = .ok root ∧ lookup root path = .ok v ∧ Matches v expected := by
  unfold assertJsonPath
  cases parse body with
  | error f => simp
  | ok root =>
    unfold assertPath
    dsimp only
    cases hl : lookup root path with
    | error e => simp [hl]
    | ok v =>
      dsimp only
      split
      · rename_i h
        exact iff_of_true rfl ⟨root, v, rfl, hl, matches_of_similar h⟩
      · rename_i h
        refine iff_of_false nofun ?_
        rintro ⟨_, w, hr, hw, hm⟩
        cases hr
        rw [hl] at hw
        cases hw
        exact h (similar_of_matches hm)

/-- Matching is an equivalence on documents. Arrays match exactly when they are of one size and
their members match in their order, objects exactly when they have the same keys, in whatever
order, and the members of each key match. A check of a path passes or fails alike with expected
values that match each other, and it passes with the value that the path leads to. -/
theorem similar_equivalence :
    Equivalence (fun v w : Document => v.1.similar w.1 = true) ∧
    (∀ left right : List Value, (Value.array left).similar (.array right) = true ↔
      left.length = right.length ∧
        ∀ (i : Nat) (v w : Value), left[i]? = some v → right[i]? = some w →
          v.similar w = true) ∧
    (∀ left right : List (String × Value), (left.map (·.1)).Nodup → (right.map (·.1)).Nodup →
      ((Value.object left).similar (.object right) = true ↔
        (∀ key, key ∈ left.map (·.1) ↔ key ∈ right.map (·.1)) ∧
          ∀ key v w, (key, v) ∈ left → (key, w) ∈ right → v.similar w = true)) ∧
    (∀ (body path : String) (v w : Document), v.1.similar w.1 = true →
      (assertJsonPath body path (some v.1) = .ok () ↔
        assertJsonPath body path (some w.1) = .ok ())) ∧
    ∀ (body path : String) (root v : Value), parse body = .ok root → lookup root path = .ok v →
      assertJsonPath body path (some v) = .ok () := by
  refine ⟨⟨fun v => ?_, fun {v w} h => ?_, fun {u v w} h h' => ?_⟩, fun left right => ?_,
    fun left right => similar_object, fun body path v w h => ?_, fun body path root v hr hv => ?_⟩
  · exact similar_of_matches (.refl v.2)
  · exact similar_of_matches ((matches_of_similar h).symm v.2)
  · exact similar_of_matches ((matches_of_similar h).trans (matches_of_similar h'))
  · rw [Value.similar, similarItems_iff]
  · have vw := matches_of_similar h
    rw [assertJsonPath_eq_ok_iff, assertJsonPath_eq_ok_iff]
    constructor
    · rintro ⟨root, u, hr, hu, hm⟩
      exact ⟨root, u, hr, hu, hm.trans vw⟩
    · rintro ⟨root, u, hr, hu, hm⟩
      exact ⟨root, u, hr, hu, hm.trans (vw.symm v.2)⟩
  · have sound : v.Sound := (sound_of_parse hr).lookup hv
    exact assertJsonPath_eq_ok_iff.2 ⟨root, v, hr, hv, .refl sound⟩

/-- The object `{"a": 1, "b": [true]}` and the one with its keys in the other order and its scalars
as texts. -/
theorem similar_equivalence_reordered :
    let left : List (String × Value) :=
      [("a", .number (.integer 1)), ("b", .array [.bool true])]
    let right : List (String × Value) := [("b", .array [.string "true"]), ("a", .string "1")]
    (Value.object left).similar (.object right) = true ∧
    (Value.object right).similar (.object left) = true ∧
    (∀ key, key ∈ left.map (·.1) ↔ key ∈ right.map (·.1)) ∧
    (∀ path, assertJsonPath "[1]" path (some (.object left)) = .ok () ↔
      assertJsonPath "[1]" path (some (.object right)) = .ok ()) ∧
    ∃ root, parse "[1]" = .ok root ∧ assertJsonPath "[1]" "" (some root) = .ok () := by
  intro left right
  obtain ⟨⟨-, symm, -⟩, -, objects, alike, itself⟩ := similar_equivalence
  let l : Document := ⟨.object left, by simp [left]⟩
  let r : Document := ⟨.object right, by simp [right]⟩
  have same : l.1.similar r.1 = true := by decide +kernel
  have keys := ((objects left right (by decide) (by decide)).1 same).1
  obtain ⟨root, hr⟩ : ∃ root, parse "[1]" = .ok root := by
    have read : (parse "[1]").toBool = true := by decide +kernel
    cases h : parse "[1]" with
    | error f => simp [h, Except.toBool] at read
    | ok root => exact ⟨root, rfl⟩
  exact ⟨same, symm (x := l) (y := r) same, keys, fun path => alike "[1]" path l r same, root, hr,
    itself "[1]" "" root root hr rfl⟩

end CollectionRunner.Json
