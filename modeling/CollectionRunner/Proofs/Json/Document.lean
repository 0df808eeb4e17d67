import CollectionRunner.Json.Path
import CollectionRunner.Proofs.Json.Record

namespace CollectionRunner

/-- The two steps of a computation that came to an end. -/
theorem bind_eq_ok_iff {ε α β : Type} {x : Except ε α} {f : α → Except ε β} {b : β} :
    (x >>= f) = .ok b ↔ ∃ a, x = .ok a ∧ f a = .ok b := by
  cases x with
  | error e =>
    have failed : (Except.error e >>= f) = .error e := rfl
    simp [failed]
  | ok a =>
    have went_on : (Except.ok a >>= f) = f a := rfl
    simp [went_on]

theorem mapError_eq_ok_iff {ε ε' α : Type} {x : Except ε α} {f : ε → ε'} {a : α} :
    x.mapError f = .ok a ↔ x = .ok a := by
  cases x <;> simp [Except.mapError]

namespace Json

/-- A value without members. -/
def Value.isScalar : Value → Bool
  | .array _ | .object _ => false
  | _ => true

/-- No key stands twice in an object of the value, at any depth. -/
inductive Value.Sound : Value → Prop
  | scalar {v : Value} (h : v.isScalar = true) : Sound v
  | array {items : List Value} (members : ∀ v ∈ items, Sound v) : Sound (.array items)
  | object {fields : List (String × Value)} (distinct : (fields.map (·.1)).Nodup)
    (members : ∀ f ∈ fields, Sound f.2) : Sound (.object fields)

namespace Value

variable {items : List Value} {fields : List (String × Value)}

@[simp] theorem sound_null : Value.null.Sound := .scalar rfl

@[simp] theorem sound_bool (b : Bool) : (Value.bool b).Sound := .scalar rfl

@[simp] theorem sound_number (n : Number) : (Value.number n).Sound := .scalar rfl

@[simp] theorem sound_string (s : String) : (Value.string s).Sound := .scalar rfl

@[simp] theorem sound_array : (Value.array items).Sound ↔ ∀ v ∈ items, v.Sound := by
  refine ⟨fun h => ?_, .array⟩
  cases h with
  | scalar h => cases h
  | array members => exact members

@[simp] theorem sound_object :
    (Value.object fields).Sound ↔ (fields.map (·.1)).Nodup ∧ ∀ f ∈ fields, f.2.Sound := by
  refine ⟨fun h => ?_, fun h => .object h.1 h.2⟩
  cases h with
  | scalar h => cases h
  | object distinct members => exact ⟨distinct, members⟩

end Value

/-- A value as it is held in memory. -/
def Document := { v : Value // v.Sound }

section Fields

variable {α : Type} {key : String} {value : α} {fields : List (String × α)}

theorem mem_of_field? (h : field? key fields = some value) : (key, value) ∈ fields := by
  fun_induction field? key fields with
  | case1 => cases h
  | case2 v rest =>
    cases h
    exact List.mem_cons_self
  | case3 k v rest _ ih => exact List.mem_cons_of_mem _ (ih h)

theorem field?_of_mem (distinct : (fields.map (·.1)).Nodup) (h : (key, value) ∈ fields) :
    field? key fields = some value := by
  fun_induction field? key fields with
  | case1 => cases h
  | case2 v rest =>
    rcases List.mem_cons.1 h with h | h
    · cases h
      rfl
    · exact absurd (List.mem_map_of_mem h) (List.nodup_cons.1 distinct).1
  | case3 k v rest hne ih =>
    rcases List.mem_cons.1 h with h | h
    · cases h
      exact absurd rfl hne
    · exact ih (List.nodup_cons.1 distinct).2 h

theorem field?_isSome_iff : (field? key fields).isSome = true ↔ key ∈ fields.map (·.1) := by
  fun_induction field? key fields with
  | case1 => simp
  | case2 v rest => simp
  | case3 k v rest hne ih =>
    rw [ih, List.map_cons, List.mem_cons]
    exact (or_iff_right (Ne.symm hne)).symm

end Fields

theorem Value.sound_ofFields {fields : List (String × Value)} (h : ∀ f ∈ fields, f.2.Sound) :
    (Value.ofFields fields).Sound := by
  have from_ (acc : List (String × Value)) (ha : ∀ f ∈ acc, f.2.Sound) :
      ∀ f ∈ fields.foldl (fun acc f => insertField f.1 f.2 acc) acc, f.2.Sound := by
    induction fields generalizing acc with
    | nil => exact ha
    | cons field fields ih =>
      obtain ⟨hf, hr⟩ := List.forall_mem_cons.1 h
      refine ih hr _ fun f hm => ?_
      rcases mem_insertField hm with rfl | hm
      · exact hf
      · exact ha f hm
  exact .object (nodup_of_ofFields rfl) (from_ [] (by simp))

mutual

/-- The value of a tree is a document. -/
theorem Node.sound_value {v : Value} : ∀ {n : Node}, n.value = .ok v → v.Sound
  | .null _, h => by
    cases h
    exact Value.sound_null
  | .bool _ b, h => by
    cases h
    exact Value.sound_bool b
  | .number _ (.ok n), h => by
    cases h
    exact Value.sound_number n
  | .number _ (.error _), h => by cases h
  | .string _ (.ok s), h => by
    cases h
    exact Value.sound_string s
  | .string _ (.error _), h => by cases h
  | .array _ items ending, h => by
    rw [value] at h
    obtain ⟨vs, hi, h⟩ := bind_eq_ok_iff.mp h
    obtain ⟨_, -, h⟩ := bind_eq_ok_iff.mp h
    cases h
    exact .array (Node.sound_valueItems hi)
  | .object _ fields ending, h => by
    rw [value] at h
    obtain ⟨fs, hi, h⟩ := bind_eq_ok_iff.mp h
    obtain ⟨_, -, h⟩ := bind_eq_ok_iff.mp h
    cases h
    exact Value.sound_ofFields (Node.sound_valueFields hi)
  | .broken _ _, h => by cases h

theorem Node.sound_valueItems {vs : List Value} :
    ∀ {nodes : List Node}, Node.valueItems nodes = .ok vs → ∀ v ∈ vs, v.Sound
  | [], h => by
    cases h
    simp
  | n :: rest, h => by
    rw [valueItems] at h
    obtain ⟨w, hn, h⟩ := bind_eq_ok_iff.mp h
    obtain ⟨ws, hr, h⟩ := bind_eq_ok_iff.mp h
    cases h
    exact List.forall_mem_cons.2 ⟨Node.sound_value hn, Node.sound_valueItems hr⟩

theorem Node.sound_valueFields {fs : List (String × Value)} :
    ∀ {nodes : List (Key × Node)}, Node.valueFields nodes = .ok fs → ∀ f ∈ fs, f.2.Sound
  | [], h => by
    cases h
    simp
  | (k, n) :: rest, h => by
    rw [valueFields] at h
    obtain ⟨name, -, h⟩ := bind_eq_ok_iff.mp h
    obtain ⟨w, hn, h⟩ := bind_eq_ok_iff.mp h
    obtain ⟨ws, hr, h⟩ := bind_eq_ok_iff.mp h
    cases h
    exact List.forall_mem_cons.2 ⟨Node.sound_value hn, Node.sound_valueFields hr⟩

end

/-- What a text holds is a document. -/
theorem sound_of_parse {text : String} {v : Value} (h : parse text = .ok v) : v.Sound := by
  unfold parse readText at h
  dsimp only at h
  obtain ⟨w, hw, h⟩ := bind_eq_ok_iff.mp h
  have hv : w = v := by
    split at h
    · cases h
      rfl
    · split at h
      · cases h
        rfl
      · cases h
  exact hv ▸ Node.sound_value hw

namespace Value.Sound

variable {v w : Value}

theorem step? {segment : String} (h : v.Sound) (hw : Json.step? segment v = some w) : w.Sound := by
  cases v with
  | array items =>
    obtain ⟨i, -, hi⟩ := Option.bind_eq_some_iff.1 hw
    exact sound_array.1 h w (List.mem_of_getElem? hi)
  | object fields => exact (sound_object.1 h).2 (segment, w) (mem_of_field? hw)
  | _ => cases hw

theorem walk? {segments : List String} (h : v.Sound) (hw : Json.walk? segments v = some w) :
    w.Sound := by
  induction segments generalizing v with
  | nil =>
    cases hw
    exact h
  | cons segment segments ih =>
    obtain ⟨u, hu, hw⟩ := Option.bind_eq_some_iff.1 hw
    exact ih (h.step? hu) hw

end Value.Sound

theorem lookup_eq_ok_iff {root v : Value} {path : String} :
    lookup root path = .ok v ↔
      (path = "" ∧ root = v) ∨ (path ≠ "" ∧ walk? (segments path) root = some v) := by
  unfold lookup
  split
  · rename_i h
    simp [h]
  · rename_i h
    cases walk? (segments path) root <;> simp [h]

/-- The part of a document that a path leads to is a document. -/
theorem Value.Sound.lookup {root v : Value} {path : String} (h : root.Sound)
    (hv : Json.lookup root path = .ok v) : v.Sound := by
  rcases lookup_eq_ok_iff.1 hv with ⟨-, rfl⟩ | ⟨-, hw⟩
  · exact h
  · exact h.walk? hw

end Json

end CollectionRunner
