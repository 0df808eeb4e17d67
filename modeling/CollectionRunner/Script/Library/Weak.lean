import CollectionRunner.Script.Library.Collections

namespace CollectionRunner.Script.Library

open Exec

def thisWeak {α : Type} (name : String) (f : Kind → Option α) (this : Value) : Exec (Ref × α) := do
  match this with
  | .object r =>
    match ← inspect r f with
    | some a => return (r, a)
    | none => typeError (name ++ " object expected")
  | _ => typeError (name ++ " object expected")

def weakRefConstructor : Constructor :=
  { name := "WeakRef", length := 1, prototype := some .weakRefPrototype
    call := requiresNew
    construct := fun args newTarget => do
      if ! (← isHoldable (nth args 0)) then typeError "invalid target"
      let p ← prototypeFor newTarget .weakRefPrototype
      return .object (← newObject { prototype := some p, kind := .weakRef (nth args 0) })
    methods := [
      .method "deref" 0 fun this _ => do
        let (_, v) ← thisWeak "WeakRef" (fun | .weakRef v => some v | _ => none) this
        return v,
      .tag "WeakRef"] }

/-- The registry that a method is called on, with the marks of what it watches. -/
def thisRegistry : Value → Exec (Ref × List Value) :=
  thisWeak "FinalizationRegistry" fun
    | .registry marks => some marks
    | _ => none

def setMarks (r : Ref) (marks : List Value) : Exec Unit :=
  modify (·.modifyObj r fun o => { o with kind := .registry marks })

def registryConstructor : Constructor :=
  { name := "FinalizationRegistry", length := 1, prototype := some .registryPrototype
    call := requiresNew
    construct := fun args newTarget => do
      if ! (← isCallable (nth args 0)) then typeError "argument must be a function"
      let p ← prototypeFor newTarget .registryPrototype
      return .object (← newObject { prototype := some p, kind := .registry [] })
    methods := [
      .method "register" 2 fun this args => do
        let (r, marks) ← thisRegistry this
        if ! (← isHoldable (nth args 0)) then typeError "invalid target"
        if (nth args 0).same (nth args 1) then typeError "held value cannot be the target"
        let mark := nth args 2
        if mark.isUndefined then return .undefined
        if ! (← isHoldable mark) then typeError "invalid unregister token"
        setMarks r (mark :: marks)
        return .undefined,
      .method "unregister" 1 fun this args => do
        let (r, marks) ← thisRegistry this
        let mark := nth args 0
        if ! (← isHoldable mark) then typeError "invalid unregister token"
        setMarks r (marks.filter (! ·.same mark))
        return .bool (marks.any (·.same mark)),
      .tag "FinalizationRegistry"] }

end CollectionRunner.Script.Library
