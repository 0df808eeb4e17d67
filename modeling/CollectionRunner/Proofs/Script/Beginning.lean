import CollectionRunner.Proofs.Script.NewObject

namespace CollectionRunner.Script

open Library

theorem Kind.eq_plain {k : Kind} (h : (k matches .plain) = true) : k = .plain := by
  split at h
  · rfl
  · cases h

namespace Store

variable {s t u : Store} {r i : Ref} {k : Key}

theorem obj_eq_getElem? (s : Store) (r : Ref) : s.obj r = s.objects[r]?.getD {} :=
  Array.getD_eq_getD_getElem? ..

/-- Changing an object leaves the others as they are. -/
theorem obj_modifyObj (other : r ≠ i) (f : Obj → Obj) : (s.modifyObj r f).obj i = s.obj i := by
  rw [obj_eq_getElem?, obj_eq_getElem?, modifyObj, Array.getElem?_modify, if_neg other]

theorem objects_modifyTwin (f : Variable → Variable) :
    (s.modifyTwin r k f).objects = s.objects := by
  unfold modifyTwin
  split
  · rfl
  · rfl

/-- The object that all objects come from is in the second store what it is in the first. -/
structure SameRoot (s t : Store) : Prop where
  size : t.objects.size = s.objects.size
  obj : t.obj Intrinsic.objectPrototype.ref = s.obj Intrinsic.objectPrototype.ref

namespace SameRoot

theorem of_objects (same : t.objects = s.objects) : SameRoot s t where
  size := congrArg Array.size same
  obj := by rw [obj_eq_getElem?, same, obj_eq_getElem?]

theorem trans (first : SameRoot s t) (second : SameRoot t u) : SameRoot s u where
  size := second.size.trans first.size
  obj := second.obj.trans first.obj

theorem rooted (same : SameRoot s t) (rooted : s.Rooted) : t.Rooted :=
  ⟨same.size ▸ rooted.present, same.obj ▸ rooted.kind, same.obj ▸ rooted.prototype⟩

theorem inherited? (same : SameRoot s t) (rooted : s.Rooted) (k : Key) :
    t.inherited? k = s.inherited? k := by
  unfold Store.inherited?
  rw [own?_of_plain (same.rooted rooted).kind, own?_of_plain rooted.kind, same.obj]

theorem modifyTwin (f : Variable → Variable) : SameRoot s (s.modifyTwin r k f) :=
  .of_objects (objects_modifyTwin f)

section

variable (other : r ≠ Intrinsic.objectPrototype.ref)
include other

theorem modifyObj (f : Obj → Obj) : SameRoot s (s.modifyObj r f) where
  size := Array.size_modify
  obj := obj_modifyObj other f

theorem partTwin : SameRoot s (s.partTwin r k) := by
  unfold Store.partTwin
  split
  · exact .trans (.modifyTwin _) (.modifyObj other _)
  · exact .of_objects rfl

theorem settleTwin (p : Property) : SameRoot s (s.settleTwin r k p) := by
  unfold Store.settleTwin
  split
  · exact .modifyTwin _
  · exact .trans (.modifyTwin _) (.partTwin other)
  · exact .partTwin other

/-- Properties of other objects do not touch it. -/
theorem putOwn (k : Key) (p : Property) : SameRoot s (s.putOwn r k p) :=
  .trans (.settleTwin other p) (.modifyObj other _)

end

end SameRoot

end Store

namespace Host

theorem response_showResponse (r : Response) (s : Store) :
    (showResponse r s).response = some r := rfl

/-- Showing a response to a script leaves what all objects have. -/
theorem sameRoot_showResponse (r : Response) (s : Store) : s.SameRoot (showResponse r s) := by
  have put (name : String) (v : Value) (s : Store) :
      s.SameRoot (s.putOwn Intrinsic.answer.ref (.ofString name) (.plain v)) :=
    .putOwn (by decide) _ _
  refine (put "code" (.ofNat r.statusCode) s).trans ?_
  refine (put "status" (.ofString r.status) _).trans ?_
  refine (put "responseTime" (.number r.milliseconds) _).trans ?_
  exact (Store.SameRoot.putOwn (r := Intrinsic.suite.ref) (by decide) (.ofString "response")
    (.plain (.object Intrinsic.answer.ref))).trans (.of_objects rfl)

/-- The object that all objects come from is there at the beginning, with nothing behind it. It has
a constructor, and nothing for cookies. -/
theorem rooted_beginning : beginning.store.Rooted ∧
    (beginning.store.inherited? (.ofString "constructor")).isSome ∧
    (beginning.store.inherited? (.ofString "set-cookie")).isNone := by
  have begun : Intrinsic.objectPrototype.ref < beginning.store.objects.size ∧
      ((beginning.store.obj Intrinsic.objectPrototype.ref).kind matches .plain) = true ∧
      (beginning.store.obj Intrinsic.objectPrototype.ref).prototype = none ∧
      (beginning.store.inherited? (.ofString "constructor")).isSome ∧
      (beginning.store.inherited? (.ofString "set-cookie")).isNone := by
    decide +kernel
  obtain ⟨present, plain, prototype, given⟩ := begun
  exact ⟨⟨present, Kind.eq_plain plain, prototype⟩, given⟩

theorem rooted_shown (r : Response) : (showResponse r beginning.store).Rooted :=
  (sameRoot_showResponse r beginning.store).rooted rooted_beginning.1

theorem inherited?_shown (r : Response) (k : Key) :
    (showResponse r beginning.store).inherited? k = beginning.store.inherited? k :=
  (sameRoot_showResponse r beginning.store).inherited? rooted_beginning.1 k

end Host

end CollectionRunner.Script
