import CollectionRunner.Proofs.Script.HostCalls

namespace CollectionRunner.Script

namespace Obj

/-- A new object with the given properties. -/
def made (properties : Array (Key × Property)) : Obj :=
  { prototype := some Intrinsic.objectPrototype.ref, properties }

theorem extensible_made (properties : Array (Key × Property)) :
    (made properties).extensible = true := rfl

theorem listed?_made_push (properties : Array (Key × Property)) (p : Key × Property) (k : Key) :
    (made (properties.push p)).listed? k =
      ((made properties).listed? k).or (if p.1 = k then some p.2 else none) := by
  unfold listed? made
  rw [Array.find?_push, Option.map_or]
  congr 1
  split <;> simp_all

end Obj

namespace Store

/-- The object that all objects come from is there, is no object of a special kind and comes from no
other. -/
structure Rooted (s : Store) : Prop where
  present : Intrinsic.objectPrototype.ref < s.objects.size
  kind : (s.obj Intrinsic.objectPrototype.ref).kind = .plain
  prototype : (s.obj Intrinsic.objectPrototype.ref).prototype = none

/-- What all objects have under a name from the object that they come from. -/
def inherited? (s : Store) (k : Key) : Option Property := s.own? Intrinsic.objectPrototype.ref k

/-- The store with one more object. -/
def plus (s : Store) (o : Obj) : Store := (s.allocate o).2

variable {s : Store} {o : Obj} {r : Ref} {k : Key} {properties : Array (Key × Property)}

theorem obj_plus_new : (s.plus o).obj s.objects.size = o := by
  simp [plus, allocate, obj]

theorem obj_plus_old (old : r < s.objects.size) : (s.plus o).obj r = s.obj r := by
  simp [plus, allocate, obj, Array.getD, Array.getElem_push_lt, old, Nat.lt_succ_of_lt old]

theorem own?_of_plain (plain : (s.obj r).kind = .plain) : s.own? r k = (s.obj r).listed? k := by
  simp only [own?, plain]

theorem own?_made : (s.plus (.made properties)).own? s.objects.size k =
    (Obj.made properties).listed? k := by
  rw [own?_of_plain (by rw [obj_plus_new]; rfl), obj_plus_new]

theorem Rooted.plus (rooted : s.Rooted) : (s.plus o).Rooted := by
  have same : (s.plus o).obj Intrinsic.objectPrototype.ref = s.obj _ := obj_plus_old rooted.present
  refine ⟨?_, same ▸ rooted.kind, same ▸ rooted.prototype⟩
  rw [Store.plus, allocate, Array.size_push]
  exact Nat.lt_succ_of_lt rooted.present

theorem Rooted.inherited?_plus (rooted : s.Rooted) : (s.plus o).inherited? k = s.inherited? k := by
  unfold inherited?
  rw [own?_of_plain rooted.plus.kind, own?_of_plain rooted.kind, obj_plus_old rooted.present]

/-- A new object is searched first, and then the object that all objects come from. -/
theorem Rooted.search_made (rooted : s.Rooted) :
    (s.plus (.made properties)).search s.objects.size k =
      match (Obj.made properties).listed? k with
      | some p => .found p s.objects.size
      | none =>
        match s.inherited? k with
        | some p => .found p Intrinsic.objectPrototype.ref
        | none => .missing := by
  have steps : (s.plus (.made properties)).objects.size = s.objects.size + 1 := Array.size_push _
  unfold search
  rw [steps, searchFrom, own?_made]
  cases (Obj.made properties).listed? k with
  | some p => rfl
  | none =>
    -- the one object behind the new one has nothing behind it
    have behind : (s.plus (.made properties)).searchFrom k (s.objects.size + 1)
        Intrinsic.objectPrototype.ref = match s.inherited? k with
        | some p => .found p Intrinsic.objectPrototype.ref
        | none => .missing := by
      rw [searchFrom]
      change (match (s.plus (.made properties)).inherited? k with
        | some p => Search.found p Intrinsic.objectPrototype.ref
        | none => _) = _
      rw [rooted.inherited?_plus]
      cases s.inherited? k with
      | some p => rfl
      | none => simp only [rooted.plus.kind, rooted.plus.prototype]
    simp only [obj_plus_new]
    exact behind

theorem modifyObj_plus (f : Obj → Obj) :
    (s.plus o).modifyObj s.objects.size f = s.plus (f o) := by
  have changed : (s.objects.push o).modify s.objects.size f = s.objects.push (f o) := by
    apply Array.ext (by simp)
    intro i _ _
    grind
  simp only [plus, allocate, modifyObj, changed]

theorem addOwn_made (v : Value) : (s.plus (.made properties)).addOwn s.objects.size k v =
    s.plus (.made (properties.push (k, .plain v))) := by
  unfold addOwn
  rw [modifyObj_plus]
  cases k <;> rfl

end Store

namespace Exec

open Store

variable {s : Store} {k : Key} {properties : Array (Key × Property)}

theorem returns_emptyObject : Returns emptyObject s s.objects.size (s.plus (.made #[])) :=
  fun _ _ _ => rfl

theorem returns_inspect_made {α : Type} (f : Kind → α) :
    let t := s.plus (.made properties)
    Returns (inspect s.objects.size f) t (f .plain) t := by
  intro t m k h
  change k (f (t.obj s.objects.size).kind) t = _
  rw [obj_plus_new]
  rfl

/-- A new object has the properties that it has been given, and those that all objects have. -/
theorem returns_has (rooted : s.Rooted) :
    let t := s.plus (.made properties)
    Returns (has s.objects.size k) t
      (((Obj.made properties).listed? k).isSome || (s.inherited? k).isSome) t := by
  intro t
  unfold has proxyDepth
  rw [hasWithin]
  refine (returns_read _).bind ?_
  rw [rooted.search_made]
  cases (Obj.made properties).listed? k with
  | some p => exact returns_pure true
  | none =>
    cases s.inherited? k with
    | some p => exact returns_pure true
    | none => exact returns_pure false

theorem returns_getOwn_made :
    let t := s.plus (.made properties)
    Returns (getOwn s.objects.size k) t ((Obj.made properties).listed? k) t := by
  intro t
  unfold getOwn proxyDepth
  rw [getOwnWithin]
  refine (returns_inspect_made Kind.isProxy).bind ?_
  have own : t.own? s.objects.size k = (Obj.made properties).listed? k := own?_made
  exact own ▸ returns_read _

theorem returns_checkGrowth_made :
    let t := s.plus (.made properties)
    Returns (checkGrowth s.objects.size k) t () t := by
  intro t
  cases k with
  | index i =>
    have fits : t.cannotGrow s.objects.size i = false := by
      unfold cannotGrow
      rw [obj_plus_new]
      exact Bool.and_false _
    refine (returns_read _).bind ?_
    rw [fits]
    exact returns_pure ()
  | text u => exact returns_pure ()
  | symbol id => exact returns_pure ()

theorem takesElement_made : (s.plus (.made properties)).takesElement s.objects.size k = true := by
  unfold takesElement
  rw [obj_plus_new]
  cases k <;> rfl

theorem returns_setReceiver_made (absent : (Obj.made properties).listed? k = none) (v : Value) :
    Returns (setReceiver (.object s.objects.size) k v) (s.plus (.made properties)) none
      (s.plus (.made (properties.push (k, .plain v)))) := by
  have ordinary : Kind.plain.isProxy = false := rfl
  unfold setReceiver
  refine (absent ▸ returns_getOwn_made).bind ?_
  refine (returns_inspect_made Kind.isProxy).bind ?_
  rw [ordinary, if_neg Bool.false_ne_true]
  refine (returns_read _).bind ?_
  rw [obj_plus_new, Obj.extensible_made, Bool.not_true, if_neg Bool.false_ne_true]
  refine (returns_read _).bind ?_
  rw [takesElement_made, Bool.not_true, if_neg Bool.false_ne_true]
  refine returns_checkGrowth_made.bind (Returns.bind (a := ()) ?_ (returns_pure _))
  exact addOwn_made v ▸ returns_modify _

/-- A property that neither the object nor all objects have is added to it. -/
theorem returns_set (rooted : s.Rooted) (absent : (Obj.made properties).listed? k = none)
    (inherited : s.inherited? k = none) (v : Value) :
    Returns (set s.objects.size k v) (s.plus (.made properties)) ()
      (s.plus (.made (properties.push (k, .plain v)))) := by
  unfold set setFrom proxyDepth
  rw [setWithin]
  refine Returns.bind (a := none) ?_ (returns_pure ())
  refine (returns_inspect_made _).bind ?_
  rw [if_neg Bool.false_ne_true]
  refine (returns_read _).bind ?_
  rw [rooted.search_made, absent, inherited]
  exact returns_setReceiver_made absent v

end Exec

end CollectionRunner.Script
