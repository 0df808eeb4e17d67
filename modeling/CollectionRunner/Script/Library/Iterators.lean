import CollectionRunner.Script.Library.Collections

namespace CollectionRunner.Script

open Exec

namespace Adapted

def iteration (a : Adapted) : Iteration := ⟨a.source, a.next⟩

def change (r : Ref) (f : Adapted → Adapted) : Exec Unit :=
  modify (·.modifyObj r fun o =>
    match o.kind with
    | .adapted a => { o with kind := .adapted (f a) }
    | _ => o)

/-- Runs a computation; if it fails the source is told that no more values are wanted. -/
def closing {α : Type} (a : Adapted) (x : Exec α) : Exec α :=
  recover x (closeAfter a.iteration)

/-- What is asked of the source: the next value, or to come to its `ending`. -/
def request (a : Adapted) (ending : Bool) : Exec Iteration := do
  if ! ending then return a.iteration
  return ⟨a.source, ← a.closing (getNamedOf a.source "return")⟩

/-- What the function makes of a value. -/
def apply (a : Adapted) (r : Ref) (v : Value) (i : Nat) : Exec Value := do
  change r fun a => { a with count := i + 1 }
  a.closing (call a.function .undefined [v, .ofNat i])

/-- A value that is drawn: none at the end. -/
abbrev Drawn := Option Value

def dropping (a : Adapted) (r : Ref) (ending : Bool) : Exec Drawn := do
  let source ← a.request ending
  iterate a.count fun
    | 0 => .ok <$> nextValue source
    | n + 1 => do
      change r fun a => { a with count := n }
      match ← nextValue source with
      | none => return .ok none
      | some _ => return if ending then .ok none else .error n

def filtered (a : Adapted) (r : Ref) (ending : Bool) : Exec Drawn := do
  let source ← a.request ending
  iterate a.count fun i => do
    match ← nextValue source with
    | none => return .ok none
    | some v =>
      if ending then return .ok (some v)
      let selected ← a.apply r v i
      return if selected.truth then .ok (some v) else .error (i + 1)

def mapped (a : Adapted) (r : Ref) (ending : Bool) : Exec Drawn := do
  match ← nextValue (← a.request ending) with
  | none => return none
  | some v => if ending then return some v else return some (← a.apply r v a.count)

def taking (a : Adapted) (r : Ref) (ending : Bool) : Exec Drawn := do
  if 0 < a.count then
    let source ← a.request ending
    change r fun a => { a with count := a.count - 1 }
    nextValue source
  else
    closeIteration a.iteration
    return none

/-- The iterator that a value is or gives. -/
def innerIterator (v : Value) : Exec Value := do
  match v with
  | .object _ =>
    match ← getOf v KnownSymbol.iterator.key with
    | .undefined | .null => return v
    | f =>
      match ← call f v [] with
      | .object r => return .object r
      | _ => typeError "not an object"
  | _ => typeError "not an object"

/-- The next value of the inner iterator; at its end, or if it cannot come to one, there is no inner
iterator any more. -/
def drawInner (a : Adapted) (r : Ref) (inner : Value) (ending : Bool) : Exec Drawn := do
  let drop : Exec Unit := change r fun a => { a with inner := none }
  let drawn ← recover
    (do
      let f ← getNamedOf inner (if ending then "return" else "next")
      if ending && f.isNullish then return none
      nextValue ⟨inner, f⟩)
    fun f => do
      drop
      closeAfter a.iteration f
  if drawn.isNone then drop
  return drawn

def flattened (a : Adapted) (r : Ref) (ending : Bool) : Exec Drawn :=
  iterate (a.inner, a.count) fun
    | (some inner, i) => do
      match ← a.drawInner r inner ending with
      | some v => return .ok (some v)
      | none => return .error (none, i)
    | (none, i) => do
      match ← nextValue (← a.request ending) with
      | none => return .ok none
      | some v =>
        if ending then return .ok (some v)
        let given ← a.apply r v i
        let inner ← a.closing (innerIterator given)
        change r fun a => { a with inner := some inner }
        return .error (some inner, i + 1)

def draw (a : Adapted) (r : Ref) : (ending : Bool) → Exec Drawn :=
  match a.adaptation with
  | .drop => a.dropping r
  | .filter => a.filtered r
  | .flatMap => a.flattened r
  | .map => a.mapped r
  | .take => a.taking r

end Adapted

namespace Library

/-- Draws a value, or comes to an early end. -/
def drawAdapted (ending : Bool) : Code := fun this _ => do
  match this with
  | .object r =>
    match ← kindOf r with
    | .adapted a =>
      if a.running then typeError "Generator is running"
      if a.done then return ← iteratorResult .undefined true
      Adapted.change r fun a => { a with running := true }
      let drawn ← recover (a.draw r ending) fun f => do
        Adapted.change r fun a => { a with running := false, done := true }
        fail f
      Adapted.change r fun a => { a with running := false, done := ending || drawn.isNone }
      iteratorResult (drawn.getD .undefined) drawn.isNone
    | _ => typeError "Iterator Helper object expected"
  | _ => typeError "Iterator Helper object expected"

/-- Asks the value that an iterator stands for. -/
def drawWrapped (ending : Bool) : Code := fun this _ => do
  match this with
  | .object r =>
    match ← kindOf r with
    | .wrapped it next =>
      if ending then
        let f ← getNamedOf it "return"
        if f.isNullish then iteratorResult .undefined true
        else
          match ← call f it [] with
          | .object r => return .object r
          | _ => typeError "iterator must return an object"
      else
        let v ← nextValue ⟨it, next⟩
        iteratorResult (v.getD .undefined) v.isNone
    | _ => typeError "Iterator Wrap object expected"
  | _ => typeError "Iterator Wrap object expected"

/-- A number of values, of which there may be no bound. -/
def toCount (v : Value) : Exec Nat := do
  let x ← toNumber v
  if x.isNaN || x ≤ -1 then rangeError "must be positive"
  return clampNat x mostLength

def adaptedMethod (name : String) (adaptation : Adaptation) : Entry :=
  .method name 1 (onRef fun r args => do
    let counts := adaptation = .drop || adaptation = .take
    let count ← if counts then toCount (nth args 0) else pure 0
    let function ← if counts then pure .undefined else callback (nth args 0)
    let next ← getNamed r "next"
    let a : Adapted := { adaptation, source := .object r, next, function, count }
    newIterator .adaptedPrototype (.adapted a))

/-- Asks about the values of an iterator, with the number of those before, up to the first answer. -/
def ask (r : Ref) (otherwise : Value) (question : Value → Nat → Exec (Option Value)) :
    Exec Value := do
  let i : Iteration := ⟨.object r, ← getNamed r "next"⟩
  iterate 0 fun n => do
    match ← nextValue i with
    | none => return .ok otherwise
    | some v =>
      match ← recover (question v n) (closeAfter i) with
      | none => return .error (n + 1)
      | some answer =>
        closeIteration i
        return .ok answer

/-- A method that asks a function about the values: each of its results may be an answer. -/
def searchMethod (name : String) (otherwise : Value) (answer : Value → Value → Option Value) :
    Entry :=
  .method name 1 (onRef fun r args => do
    let f ← callback (nth args 0)
    ask r otherwise fun v n => return answer v (← call f .undefined [v, .ofNat n]))

def reduceValues : Code := onRef fun r args => do
  let f ← callback (nth args 0)
  let i : Iteration := ⟨.object r, ← getNamed r "next"⟩
  let first ←
    match args with
    | _ :: v :: _ => pure (v, 0)
    | _ =>
      match ← nextValue i with
      | some v => pure (v, 1)
      | none => typeError "empty iterator"
  iterate first fun (sum, n) => do
    match ← nextValue i with
    | none => return .ok sum
    | some v =>
      let sum ← recover (call f .undefined [sum, v, .ofNat n]) (closeAfter i)
      return .error (sum, n + 1)

def allValues : Code := onRef fun r _ => do
  let i : Iteration := ⟨.object r, ← getNamed r "next"⟩
  let reversed ← iterate ([] : List Value) fun before => do
    match ← nextValue i with
    | none => return .ok before
    | some v => return .error (v :: before)
  newArray reversed.reverse

/-- The tag of iterators can be told anew for each of them, but not for all. -/
def setIteratorTag : Code := onRef fun r args => do
  if r == Intrinsic.iteratorPrototype.ref then typeError "Cannot assign to read only property"
  let k := KnownSymbol.toStringTag.key
  match ← getOwn r k with
  | some _ => set r k (nth args 0)
  | none => defineValue r k (nth args 0)
  return .undefined

/-- An iterator for a value that is one, gives one, or has its method `next`. -/
def iteratorFrom : Code := fun _ args => do
  let v := nth args 0
  match v with
  | .text _ => call (← getOf v KnownSymbol.iterator.key) v []
  | .object _ =>
    if ← hasInstance v (.object Intrinsic.iteratorConstructor.ref) then return v
    match ← getOf v KnownSymbol.iterator.key with
    | .undefined | .null =>
      newIterator .wrappedPrototype (.wrapped v (← getNamedOf v "next"))
    | f =>
      match ← call f v [] with
      | .object r => return .object r
      | _ => typeError "not an object"
  | _ => typeError "Iterator.from called on non-object"

def iteratorConstructor : Constructor :=
  { name := "Iterator", length := 0, prototype := some .iteratorPrototype
    place := some .iteratorConstructor
    call := requiresNew
    construct := fun _ newTarget => do
      if newTarget.same (.object Intrinsic.iteratorConstructor.ref) then
        typeError "abstract class not constructable"
      let p ← prototypeFor newTarget .iteratorPrototype
      return .object (← newObject { prototype := some p })
    own := [.method "from" 1 iteratorFrom]
    methods := [
      adaptedMethod "drop" .drop, adaptedMethod "filter" .filter,
      adaptedMethod "flatMap" .flatMap, adaptedMethod "map" .map, adaptedMethod "take" .take,
      searchMethod "every" (.bool true) fun _ b => if b.truth then none else some (.bool false),
      searchMethod "find" .undefined fun v b => if b.truth then some v else none,
      searchMethod "forEach" .undefined fun _ _ => none,
      searchMethod "some" (.bool false) fun _ b => if b.truth then some (.bool true) else none,
      .method "reduce" 1 reduceValues,
      .method "toArray" 0 allValues,
      .symbolMethod .iterator "[Symbol.iterator]" 0 fun this _ => return this,
      .symbolAccessor .toStringTag "[Symbol.toStringTag]"
        (fun _ _ => return .ofString "Iterator") setIteratorTag] }

def adaptedMethods : List (Intrinsic × List Entry) :=
  [(.adaptedPrototype,
    [.method "next" 0 (drawAdapted false), .method "return" 0 (drawAdapted true),
     .tag "Iterator Helper"]),
   (.wrappedPrototype,
    [.method "next" 0 (drawWrapped false), .method "return" 0 (drawWrapped true)])]

end Library

end CollectionRunner.Script
