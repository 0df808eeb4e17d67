import CollectionRunner.Proofs.Http.Names
import CollectionRunner.Proofs.Script.Beginning

namespace CollectionRunner.Script.Host

open Exec Store

variable {s : Store}

section Offering

variable {properties : Array (Key × Property)} {header : String × String} {k : Key}

/-- The properties of a new object after it has been offered a header. -/
def offer (s : Store) (properties : Array (Key × Property)) (header : String × String) :
    Array (Key × Property) :=
  let key := Key.ofString header.1.toLower
  if ((Obj.made properties).listed? key).isSome || (s.inherited? key).isSome then properties
  else properties.push (key, .plain (.ofString header.2))

theorem offer_of_free (absent : (Obj.made properties).listed? (.ofString header.1.toLower) = none)
    (inherited : s.inherited? (.ofString header.1.toLower) = none) :
    offer s properties header =
      properties.push (.ofString header.1.toLower, .plain (.ofString header.2)) := by
  refine if_neg fun taken => ?_
  rw [absent, inherited] at taken
  cases taken

theorem offer_of_taken
    (taken : ((Obj.made properties).listed? (.ofString header.1.toLower)).isSome ∨
      (s.inherited? (.ofString header.1.toLower)).isSome) :
    offer s properties header = properties :=
  if_pos (Bool.or_eq_true_iff.2 taken)

theorem free_or_taken (s : Store) (properties : Array (Key × Property)) (k : Key) :
    ((Obj.made properties).listed? k = none ∧ s.inherited? k = none) ∨
      (((Obj.made properties).listed? k).isSome ∨ (s.inherited? k).isSome) := by
  cases (Obj.made properties).listed? k <;> cases s.inherited? k <;> simp

theorem returns_addHeaders (rooted : s.Rooted) (headers : List (String × String)) :
    Returns (addHeaders s.objects.size headers) (s.plus (.made properties)) ()
      (s.plus (.made (headers.foldl (offer s) properties))) := by
  induction headers generalizing properties with
  | nil => exact returns_pure ()
  | cons header rest ih =>
    rw [addHeaders, List.foldl_cons]
    refine (returns_has rooted).bind ?_
    obtain ⟨absent, inherited⟩ | taken := free_or_taken s properties (.ofString header.1.toLower)
    · rw [offer_of_free absent inherited, absent, inherited]
      exact (returns_set rooted absent inherited _).bind ih
    · rw [offer_of_taken taken, Bool.or_eq_true_iff.2 taken]
      exact ih

/-- What the object has under a name: the value of the first header of the name, unless all objects
have something under it. -/
theorem listed?_offered (headers : List (String × String)) :
    (Obj.made (headers.foldl (offer s) properties)).listed? k =
      ((Obj.made properties).listed? k).or
        (if (s.inherited? k).isSome then none
         else (headers.find? fun h => Key.ofString h.1.toLower == k).map
          fun h => .plain (.ofString h.2)) := by
  induction headers generalizing properties with
  | nil => simp
  | cons header rest ih =>
    rw [List.foldl_cons, ih]
    by_cases own : Key.ofString header.1.toLower = k
    · subst own
      rw [List.find?_cons_of_pos (by simp)]
      obtain ⟨absent, inherited⟩ | taken := free_or_taken s properties (.ofString header.1.toLower)
      · rw [offer_of_free absent inherited, Obj.listed?_made_push, absent, inherited]
        simp
      · rw [offer_of_taken taken]
        obtain listed | inherited := taken
        · obtain ⟨p, found⟩ := Option.isSome_iff_exists.1 listed
          rw [found, Option.some_or, Option.some_or]
        · rw [if_pos inherited, if_pos inherited]
    · rw [List.find?_cons_of_neg (by simpa using own)]
      congr 1
      obtain ⟨absent, inherited⟩ | taken := free_or_taken s properties (.ofString header.1.toLower)
      · rw [offer_of_free absent inherited, Obj.listed?_made_push, if_neg own, Option.or_none]
      · rw [offer_of_taken taken]

end Offering

/-- Headers are found by their names in lower case as properties. -/
theorem find?_key (headers : List (String × String)) (name : String) :
    (headers.find? fun h => Key.ofString h.1.toLower == .ofString name.toLower).map (·.2) =
      firstHeader? headers name := by
  have same (h : String × String) :
      (Key.ofString h.1.toLower == Key.ofString name.toLower) = sameName h.1 name := by
    unfold sameName
    rw [Bool.eq_iff_iff, beq_iff_eq, beq_iff_eq]
    exact ⟨Key.ofString_injective, congrArg _⟩
  simp only [same]
  rfl

/-- What the object of a response's headers is to be: each header that the response has is an own
property, named in lower case, with the value that is read by any spelling of the name, and there
are no other own properties. -/
structure MirrorsHeaders (s : Store) (o : Ref) (r : Response) : Prop where
  value : ∀ name value, r.Carries name value → ∃ v,
    s.own? o (.ofString name.toLower) = some (.plain v) ∧
      ∀ this, Returns (headerValueCode this [.ofString name]) s v s
  names : ∀ k, (s.own? o k).isSome ↔ ∃ h ∈ r.headers, k = .ofString h.1.toLower

/-- The store once the headers have been put into a new object. -/
def offered (s : Store) (headers : List (String × String)) : Store :=
  s.plus (.made (headers.foldl (offer s) #[]))

theorem own?_offered (headers : List (String × String)) (k : Key) :
    (offered s headers).own? s.objects.size k =
      if (s.inherited? k).isSome then none
      else (headers.find? fun h => Key.ofString h.1.toLower == k).map
        fun h => .plain (.ofString h.2) := by
  unfold offered
  rw [own?_made, listed?_offered]
  exact Option.none_or

theorem own?_offered_name (r : Response) (name : String) :
    (offered s r.headers).own? s.objects.size (.ofString name.toLower) =
      if (s.inherited? (.ofString name.toLower)).isSome then none
      else (r.header? name).map fun v => .plain (.ofString v) := by
  rw [own?_offered]
  unfold Response.header?
  rw [← find?_key, Option.map_map]
  rfl

theorem mirrorsHeaders_offered {r : Response} (shown : s.response = some r)
    (free : ∀ h ∈ r.headers, s.inherited? (.ofString h.1.toLower) = none) :
    MirrorsHeaders (offered s r.headers) s.objects.size r where
  value := by
    intro name value carried
    obtain ⟨h, mem, same, -⟩ := id carried
    have lower : h.1.toLower = name.toLower := eq_of_beq ((sameName_iff h.1 name).2 same)
    obtain ⟨first, found⟩ : ∃ first, r.header? name = some first :=
      Option.ne_none_iff_exists'.1 fun none => Response.header?_eq_none_iff.1 none value carried
    refine ⟨.ofString first, ?_, fun this => ?_⟩
    · rw [own?_offered_name, ← lower, free h mem, found]
      rfl
    · have read := returns_headerValueCode (s := offered s r.headers) shown this name []
      rwa [found] at read
  names := by
    intro k
    rw [own?_offered]
    constructor
    · intro some_own
      split at some_own
      · cases some_own
      · rw [Option.isSome_map, List.find?_isSome] at some_own
        obtain ⟨h, mem, own⟩ := some_own
        exact ⟨h, mem, (eq_of_beq own).symm⟩
    · rintro ⟨h, mem, rfl⟩
      rw [free h mem, if_neg (by simp), Option.isSome_map, List.find?_isSome]
      exact ⟨h, mem, beq_self_eq_true _⟩

/-- A header of a name that all objects have something under is missing. -/
theorem not_mirrorsHeaders_offered {r : Response} {h : String × String} (mem : h ∈ r.headers)
    (inherited : (s.inherited? (.ofString h.1.toLower)).isSome) :
    ¬ MirrorsHeaders (offered s r.headers) s.objects.size r := by
  intro mirrors
  have own : ((offered s r.headers).own? s.objects.size (.ofString h.1.toLower)).isSome :=
    (mirrors.names _).2 ⟨h, mem, rfl⟩
  rw [own?_offered, if_pos inherited] at own
  cases own

theorem returns_headersCode (rooted : s.Rooted) {r : Response} (shown : s.response = some r)
    (this : Value) (args : List Value) :
    Returns (headersCode this args) s (.object s.objects.size) (offered s r.headers) := by
  refine returns_wanting (Nat.zero_le _) ((returns_response shown).bind ?_)
  exact returns_emptyObject.bind ((returns_addHeaders rooted r.headers).bind (returns_pure _))

/-- The object of a response's headers has the first value of each header, but for those headers
whose names in lower case all objects have something under. So it mirrors the headers exactly when
there are no such ones. -/
theorem headersCode_mirrors_iff (rooted : s.Rooted) {r : Response} (shown : s.response = some r)
    (this : Value) (args : List Value) :
    ∃ o t, Returns (headersCode this args) s (.object o) t ∧ t.response = some r ∧
      (∀ name, t.own? o (.ofString name.toLower) =
        if (s.inherited? (.ofString name.toLower)).isSome then none
        else (r.header? name).map fun v => .plain (.ofString v)) ∧
      (MirrorsHeaders t o r ↔
        ∀ h ∈ r.headers, s.inherited? (.ofString h.1.toLower) = none) := by
  refine ⟨_, _, returns_headersCode rooted shown this args, shown, own?_offered_name r, ?_,
    mirrorsHeaders_offered shown⟩
  intro mirrors h mem
  by_contra inherited
  exact not_mirrorsHeaders_offered mem (Option.isSome_iff_ne_none.2 inherited) mirrors

/-- Two spellings of a name under which no object has anything at the beginning. -/
theorem headersCode_mirrors_cookies :
    let r : Response := { headers := [("Set-Cookie", "a"), ("set-cookie", "b")] }
    let s := showResponse r beginning.store
    s.Rooted ∧ s.response = some r ∧
      ∃ o t, Returns (headersCode .undefined []) s (.object o) t ∧ MirrorsHeaders t o r ∧
        t.own? o (.ofString "set-cookie") = some (.plain (.ofString "a")) := by
  intro r s
  obtain ⟨-, -, nothing⟩ := rooted_beginning
  have rooted : s.Rooted := rooted_shown r
  have free : s.inherited? (.ofString "set-cookie") = none :=
    (inherited?_shown r _).trans (Option.isNone_iff_eq_none.1 nothing)
  have shown : s.response = some r := response_showResponse r beginning.store
  have lower : ∀ h ∈ r.headers, h.1.toLower = "set-cookie" := by decide +kernel
  have read : r.header? "Set-Cookie" = some "a" := by decide +kernel
  obtain ⟨o, t, given, -, own, mirrors⟩ := headersCode_mirrors_iff rooted shown .undefined []
  have first := own "Set-Cookie"
  rw [lower _ List.mem_cons_self, read, free] at first
  refine ⟨rooted, shown, o, t, given, mirrors.2 fun h mem => ?_, first⟩
  rw [lower h mem, free]

/-- A header that is named like what all objects have from the beginning: it is read by its name,
and the object of headers lacks it. -/
theorem headersCode_misses_constructor :
    let r : Response := { headers := [("constructor", "x")] }
    ∃ o t, Returns (headersCode .undefined []) (showResponse r beginning.store) (.object o) t ∧
      Returns (headerValueCode .undefined [.ofString "constructor"]) t (.ofString "x") t ∧
      t.own? o (.ofString "constructor") = none ∧ ¬ MirrorsHeaders t o r := by
  intro r
  have rooted := rooted_shown r
  have shown := response_showResponse r beginning.store
  obtain ⟨-, taken, -⟩ := rooted_beginning
  rw [← inherited?_shown r] at taken
  -- the store is a variable from here on, so that nothing unfolds it
  generalize showResponse r beginning.store = s at rooted shown taken ⊢
  have lower : "constructor".toLower = "constructor" := by decide +kernel
  have read : r.header? "constructor" = some "x" := by decide +kernel
  have own := own?_offered_name (s := s) r "constructor"
  rw [lower, if_pos taken] at own
  have value := returns_headerValueCode (s := offered s r.headers) shown .undefined "constructor" []
  rw [read] at value
  refine ⟨_, _, returns_headersCode rooted shown .undefined [], value, own, ?_⟩
  exact not_mirrorsHeaders_offered List.mem_cons_self (lower.symm ▸ taken)

end CollectionRunner.Script.Host
