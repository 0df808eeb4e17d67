import CollectionRunner.Script.Operators

namespace CollectionRunner.Script

/-- An iterator and its method that gives the next value. -/
structure Iteration where
  iterator : Value
  next : Value
  deriving Inhabited

namespace Exec

def iterationOf (v : Value) (method : Key) : Exec Iteration := do
  let f ← getOf v method
  if ! (← isCallable f) then typeError "value is not iterable"
  match ← call f v [] with
  | .object r => return ⟨.object r, ← getNamed r "next"⟩
  | _ => typeError "not an object"

def iterate? (v : Value) : Exec Iteration := iterationOf v KnownSymbol.iterator.key

/-- The next value, if there is one. -/
def nextValue (i : Iteration) : Exec (Option Value) := do
  match ← call i.next i.iterator [] with
  | .object r =>
    if (← getNamed r "done").truth then return none
    return some (← getNamed r "value")
  | _ => typeError "iterator must return an object"

/-- Tells an iterator that no more values are wanted. -/
def closeIteration (i : Iteration) : Exec Unit := do
  match ← method? i.iterator (.ofString "return") with
  | none => return ()
  | some f =>
    match ← call f i.iterator [] with
    | .object _ => return ()
    | _ => typeError "not an object"

/-- Goes on with a failure after the iterator has been told. What the iterator throws counts only if
nothing was thrown before. -/
def closeAfter {α : Type} (i : Iteration) (f : Fault) : Exec α := do
  match f with
  | .interrupted => fail f
  | .thrown v =>
    catchThrown (closeIteration i) fun _ => return ()
    throwValue v
  | _ =>
    closeIteration i
    fail f

/-- Runs a computation for each value. -/
def forValues (v : Value) (step : Value → Exec Unit) : Exec Unit := do
  let i ← iterate? v
  iterate () fun () => do
    match ← nextValue i with
    | none => return .ok ()
    | some v =>
      recover (step v) (closeAfter i)
      return .error ()

/-- All values that a value gives, added to those before in reverse. -/
def spread (v : Value) (before : List Value) : Exec (List Value) := do
  let i ← iterate? v
  iterate before fun before => do
    match ← nextValue i with
    | none => return .ok before
    | some v =>
      return .error (v :: before)

def valuesOf (v : Value) : Exec (List Value) := return (← spread v []).reverse

/-- An object that an iterator's `next` gives. -/
def iteratorResult (v : Value) (done : Bool) : Exec Value := do
  let r ← newObject
    { prototype := some Intrinsic.objectPrototype.ref,
      properties := #[(.ofString "value", .plain v), (.ofString "done", .plain (.bool done))] }
  return .object r

end Exec

end CollectionRunner.Script
