import CollectionRunner.Proofs.Json.Document

namespace CollectionRunner.Json

variable {α β : Type}

/-- What stands in a record for a field: the value of its name in an object, or the one at its place
in a list. -/
def Node.part? (name : String) (place : Nat) : Node → Option Node
  | .object _ fields _ => (fields.find? (·.1.name.toOption == some name)).map (·.2)
  | .array _ nodes _ => nodes[place]?
  | _ => none

/-- The text that stands in a record for a field. -/
def Node.partText? (name : String) (place : Nat) (n : Node) : Option String :=
  match n.part? name place with
  | some (.string _ (.ok s)) => some s
  | _ => none

theorem Node.part?_of_partText? {name s : String} {place : Nat} {n : Node}
    (h : n.partText? name place = some s) :
    ∃ span, n.part? name place = some (.string span (.ok s)) := by
  unfold partText? at h
  split at h
  · next span t part =>
    cases h
    exact ⟨span, part⟩
  · cases h

namespace Decoder

/-- A part that stands for a field decides a view of the record: the field sets the view by it, and
no other field changes the view. -/
structure Decides (known : Fields α) (name : String) (place : Nat) (part : Node) (view : α → β)
    (value : β) : Prop where
  sets : ∃ read, known[place]? = some (name, read) ∧
    ∀ r r', read r part = .ok r' → view r' = value
  keeps : ∀ field ∈ known, field.1 ≠ name → ∀ r n r', field.2 r n = .ok r' → view r' = view r
  distinct : (known.map (·.1)).Nodup

variable {known : Fields α} {name : String} {place : Nat} {part : Node} {view : α → β} {value : β}
  {r r' : α}

/-- What is made of something read was made of what was read. -/
theorem eq_made_of_ok {γ : Type} {x : Except Fault γ} {made : γ → α}
    (h : (x >>= fun v => pure (made v)) = .ok r') : ∃ v, x = .ok v ∧ r' = made v := by
  obtain ⟨v, hv, h⟩ := bind_eq_ok_iff.1 h
  exact ⟨v, hv, (Except.ok.inj h).symm⟩

/-- A field of an object is passed over, or it is known and stands there for the first time. -/
theorem recordFields_cons_eq_ok {k : Key} {n : Node} {rest : List (Key × Node)}
    {seen seen' : List String}
    (h : recordFields known passOver ((k, n) :: rest) seen r = .ok (seen', r')) :
    ∃ key, k.name = .ok key ∧
      ((field? key known = none ∧ recordFields known passOver rest seen r = .ok (seen', r')) ∨
        ∃ read r₁, field? key known = some read ∧ key ∉ seen ∧ read r n = .ok r₁ ∧
          recordFields known passOver rest (key :: seen) r₁ = .ok (seen', r')) := by
  rw [recordFields] at h
  obtain ⟨key, hk, h⟩ := bind_eq_ok_iff.1 h
  refine ⟨key, hk, ?_⟩
  split at h
  · next unknown =>
    obtain ⟨r₁, hr, h⟩ := bind_eq_ok_iff.1 h
    obtain ⟨_, -, same⟩ := bind_eq_ok_iff.1 (mapError_eq_ok_iff.1 hr)
    cases same
    exact .inl ⟨unknown, h⟩
  · next read known_name =>
    split at h
    · cases h
    · next new =>
      obtain ⟨r₁, hr, h⟩ := bind_eq_ok_iff.1 h
      exact .inr ⟨read, r₁, known_name, by simpa using new, mapError_eq_ok_iff.1 hr, h⟩

/-- Once a field was seen nothing of an object changes what it decides. -/
theorem Decides.recordFields_of_seen (d : Decides known name place part view value)
    {fields : List (Key × Node)} {seen seen' : List String} (hs : name ∈ seen)
    (h : recordFields known passOver fields seen r = .ok (seen', r')) : view r' = view r := by
  induction fields generalizing seen r with
  | nil => cases h; rfl
  | cons field rest ih =>
    obtain ⟨key, -, ⟨-, h⟩ | ⟨read, r₁, known_name, new, hr, h⟩⟩ := recordFields_cons_eq_ok h
    · exact ih hs h
    · have other : key ≠ name := fun e => new (e ▸ hs)
      exact (ih (List.mem_cons_of_mem _ hs) h).trans
        (d.keeps _ (mem_of_field? known_name) other _ _ _ hr)

theorem Decides.recordFields_of_find? (d : Decides known name place part view value) {k : Key}
    {fields : List (Key × Node)} {seen seen' : List String}
    (there : fields.find? (·.1.name.toOption == some name) = some (k, part))
    (h : recordFields known passOver fields seen r = .ok (seen', r')) : view r' = value := by
  obtain ⟨read, at_place, sets⟩ := d.sets
  have found : field? name known = some read :=
    field?_of_mem d.distinct (List.mem_of_getElem? at_place)
  induction fields generalizing seen r with
  | nil => cases there
  | cons field rest ih =>
    obtain ⟨k', n⟩ := field
    obtain ⟨key, hk, step⟩ := recordFields_cons_eq_ok h
    have named : (k'.name.toOption == some name) = (key == name) := by simp [hk, Except.toOption]
    rw [List.find?_cons, named] at there
    by_cases here : key = name
    · subst here
      simp only [beq_self_eq_true, Option.some.injEq, Prod.mk.injEq] at there
      obtain ⟨rfl, rfl⟩ := there
      obtain ⟨unknown, -⟩ | ⟨read', r₁, known_name, -, hr, h⟩ := step
      · cases found.symm.trans unknown
      · cases found.symm.trans known_name
        exact (d.recordFields_of_seen List.mem_cons_self h).trans (sets _ _ hr)
    · have later : (key == name) = false := by simpa using here
      simp only [later] at there
      obtain ⟨-, h⟩ | ⟨_, _, -, -, -, h⟩ := step
      · exact ih there h
      · exact ih there h

theorem recordItems_keeps {required : List String} {expected : String} {position : Position}
    (keeps : ∀ field ∈ known, ∀ r n r', field.2 r n = .ok r' → view r' = view r) {count : Nat}
    {nodes : List Node} (h : recordItems known required expected position count nodes r = .ok r') :
    view r' = view r := by
  induction known generalizing count nodes r with
  | nil =>
    cases nodes with
    | nil => cases h; rfl
    | cons n nodes => cases h
  | cons field known ih =>
    obtain ⟨name, read⟩ := field
    obtain ⟨here, later⟩ := List.forall_mem_cons.1 keeps
    cases nodes with
    | nil =>
      rw [recordItems] at h
      split at h
      · cases h
      · exact ih later h
    | cons n nodes =>
      obtain ⟨r₁, hr, h⟩ := bind_eq_ok_iff.1 h
      exact (ih later h).trans (here _ _ _ (mapError_eq_ok_iff.1 hr))

theorem Decides.recordItems_of_getElem? (d : Decides known name place part view value)
    {required : List String} {expected : String} {position : Position} {count : Nat}
    {nodes : List Node} (there : nodes[place]? = some part)
    (h : recordItems known required expected position count nodes r = .ok r') :
    view r' = value := by
  induction known generalizing place count nodes r with
  | nil =>
    obtain ⟨_, at_place, -⟩ := d.sets
    cases at_place
  | cons field known ih =>
    obtain ⟨read, at_place, sets⟩ := d.sets
    obtain ⟨new, distinct⟩ := List.nodup_cons.1 d.distinct
    cases nodes with
    | nil => cases there
    | cons n nodes =>
      obtain ⟨name', read'⟩ := field
      obtain ⟨r₁, hr, rest⟩ := bind_eq_ok_iff.1 h
      rw [mapError_eq_ok_iff] at hr
      cases place with
      | zero =>
        cases at_place
        cases there
        have others : ∀ field ∈ known, ∀ r n r', field.2 r n = .ok r' → view r' = view r :=
          fun field hf => d.keeps field (List.mem_cons_of_mem _ hf) fun e =>
            new (List.mem_map.2 ⟨field, hf, e⟩)
        have after : view r' = view r₁ := recordItems_keeps others rest
        exact after.trans (sets _ _ hr)
      | succ place =>
        have others := fun field hf => d.keeps field (List.mem_cons_of_mem _ hf)
        exact ih ⟨⟨read, at_place, sets⟩, others, distinct⟩ there rest

variable (view) in
/-- A record that was read has of a part what the part decides, as an object and as a list. -/
theorem Decides.record (d : Decides known name place part view value) {label : String}
    {required : List String} {start : α} {n : Node} (there : n.part? name place = some part)
    (h : Decoder.record label required known start n = .ok r) : view r = value := by
  cases n with
  | object span fields ending =>
    obtain ⟨⟨k, _⟩, found, rfl⟩ := Option.map_eq_some_iff.1 there
    obtain ⟨⟨seen, r₁⟩, hr, h⟩ := bind_eq_ok_iff.1 h
    obtain ⟨_, -, h⟩ := bind_eq_ok_iff.1 h
    split at h
    · cases h
    · cases h
      exact d.recordFields_of_find? found hr
  | array span nodes ending =>
    unfold Decoder.record at h
    dsimp only at h
    split at h
    · obtain ⟨r₁, hr, h⟩ := bind_eq_ok_iff.1 h
      obtain ⟨_, -, h⟩ := bind_eq_ok_iff.1 h
      cases h
      exact d.recordItems_of_getElem? there hr
    · obtain ⟨_, -, h⟩ := bind_eq_ok_iff.1 h
      obtain ⟨_, -, h⟩ := bind_eq_ok_iff.1 h
      exact d.recordItems_of_getElem? there h
  | _ => cases there

end Decoder

end CollectionRunner.Json
