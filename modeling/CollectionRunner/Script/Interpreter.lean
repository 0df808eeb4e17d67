import CollectionRunner.Script.Execute
import CollectionRunner.Script.Classes

namespace CollectionRunner.Script

/-- A function that the language or the host provides. -/
structure Native where
  /-- A call on a value with arguments. -/
  call : Value → List Value → Exec Value
  /-- What `new` does with arguments for a function that is constructed. -/
  construct : List Value → Value → Exec Value
  /-- Errors tell of its calls. -/
  told : Bool := true

instance : Inhabited Native :=
  ⟨{ call := fun _ _ => return .undefined, construct := fun _ _ => return .undefined }⟩

namespace Exec

variable (natives : Array Native)

/-- Runs the code of a provided function as a call of it. -/
def callNative (self : Ref) (n : Native) (x : Exec Value) : Exec Value :=
  if n.told then deeper ⟨some self, none, {}⟩ x else deeperUntold x

/-- Calls a value. -/
def callValue (f this : Value) (args : List Value) : Exec Value := do
  match f with
  | .object r =>
    match ← kindOf r with
    | .function c =>
      poll
      deeper (callOf r c.code.info) (callClosure r c this args)
    | .native id _ =>
      if (← read (·.depth)) % 16 = 15 then poll
      let n := (natives[id]?).getD default
      callNative r n (n.call this args)
    | .bound target boundThis before => call (.object target) boundThis (before ++ args)
    | .proxy _ _ true _ =>
      let (target, handler) ← proxyParts r
      match ← trap? handler "apply" with
      | none => call (.object target) this args
      | some trap => call trap (.object handler) [.object target, this, ← newArray args]
    | _ => typeError "not a function"
  | _ => typeError "not a function"

/-- Constructs with a value. -/
def constructValue (f : Value) (args : List Value) (newTarget : Value) : Exec Value := do
  poll
  match f with
  | .object r =>
    if ! (← isConstructor f) then typeError "not a constructor"
    match ← kindOf r with
    | .function c => deeper (callOf r c.code.info) (constructClosure r c args newTarget)
    | .native id _ =>
      let n := (natives[id]?).getD default
      callNative r n (n.construct args newTarget)
    | .bound target _ before =>
      let newTarget := if newTarget.same f then .object target else newTarget
      construct (.object target) (before ++ args) newTarget
    | .proxy .. =>
      let (target, handler) ← proxyParts r
      match ← trap? handler "construct" with
      | none => construct (.object target) args newTarget
      | some trap =>
        match ← call trap (.object handler) [.object target, ← newArray args, newTarget] with
        | .object o => return .object o
        | _ => typeError "not an object"
    | _ => typeError "not a constructor"
  | _ => typeError "not a function"

/-- What is made of a task. -/
def perform (t : Task) : Exec Value := do
  match t with
  | .eval scope e => expression evalClass scope e
  | .exec scope s =>
    statement evalClass scope s
    return .undefined
  | .bind scope aim p v =>
    patternBinding scope aim p v
    return .undefined
  | .call f this args => callValue natives f this args
  | .construct f args newTarget => constructValue natives f args newTarget

end Exec

/-- The interpreter, in which tasks lead to tasks `n` times at most. -/
def machine (natives : Array Native) : Nat → Machine
  | 0 => ⟨fun _ _ h s => h .interrupted s⟩
  | n + 1 => ⟨fun t k h s => Exec.perform natives t (machine natives n) k h s⟩

end CollectionRunner.Script
