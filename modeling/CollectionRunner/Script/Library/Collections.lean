import CollectionRunner.Script.Library.Arrays
import CollectionRunner.Script.Library.Objects

namespace CollectionRunner.Script.Library

open Exec

abbrev Entries := Array (Option (Value × Value))

/-- Minus zero counts as zero in keys. -/
def keyOf : Value → Value
  | .number x => .number (if x == 0 then 0 else x)
  | v => v

namespace Entries

def place? (es : Entries) (k : Value) : Option Nat :=
  es.findIdx? fun
    | some (k', _) => k'.sameOrZero k
    | none => false

def get? (es : Entries) (k : Value) : Option Value :=
  match place? es k with
  | some i => (es.getD i none).map (·.2)
  | none => none

/-- Puts a value under a key, in the place of an earlier one. -/
def put (es : Entries) (k v : Value) : Entries :=
  match place? es k with
  | some i => es.setIfInBounds i (some (keyOf k, v))
  | none => es.push (some (keyOf k, v))

/-- Takes out a key; its place stays, for those who go through the entries. -/
def remove (es : Entries) (k : Value) : Entries :=
  match place? es k with
  | some i => es.setIfInBounds i none
  | none => es

/-- The first entry from a place on, with its place. -/
def firstFrom (es : Entries) (i : Nat) : Option (Nat × Value × Value) :=
  if h : i < es.size then
    match es[i] with
    | some (k, v) => some (i, k, v)
    | none => firstFrom es (i + 1)
  else none
termination_by es.size - i

def count (es : Entries) : Nat := es.foldl (fun n e => if e.isSome then n + 1 else n) 0

end Entries

/-- Objects can be held weakly, and symbols that are not shared by their names. -/
def isHoldable (v : Value) : Exec Bool := do
  match v with
  | .object _ => return true
  | .symbol id => read fun s => ! s.shared.any (·.2 == id)
  | _ => return false

/-- A kind of collection: what it is without entries, and its entries, which can be changed. -/
structure Container where
  name : String
  empty : Kind
  entries? : Kind → Option Entries
  change : (Entries → Entries) → Kind → Kind

def mapContainer : Container where
  name := "Map"
  empty := .map #[]
  entries?
    | .map es => some es
    | _ => none
  change f
    | .map es => .map (f es)
    | k => k

def setContainer : Container where
  name := "Set"
  empty := .set #[]
  entries?
    | .set es => some es
    | _ => none
  change f
    | .set es => .set (f es)
    | k => k

def weakMapContainer : Container where
  name := "WeakMap"
  empty := .weakMap #[]
  entries?
    | .weakMap es => some es
    | _ => none
  change f
    | .weakMap es => .weakMap (f es)
    | k => k

def weakSetContainer : Container where
  name := "WeakSet"
  empty := .weakSet #[]
  entries?
    | .weakSet es => some es
    | _ => none
  change f
    | .weakSet es => .weakSet (f es)
    | k => k

namespace Container

/-- The collection that a method is called on, and something about its entries. -/
@[inline]
def on {α : Type} (c : Container) (this : Value) (f : Entries → α) : Exec (Ref × α) := do
  match this with
  | .object r =>
    match ← inspect r fun kind => (c.entries? kind).map f with
    | some a => return (r, a)
    | none => typeError (c.name ++ " object expected")
  | _ => typeError (c.name ++ " object expected")

/-- The collection that a method is called on. -/
def self (c : Container) (this : Value) : Exec Ref := do
  let (r, ()) ← c.on this fun _ => ()
  return r

/-- A method that answers a question about the entries. -/
def question (c : Container) (f : Entries → List Value → Value) : Code := fun this args => do
  return (← c.on this (f · args)).2

/-- Changes the entries of a collection. -/
def modify (c : Container) (r : Ref) (f : Entries → Entries) : Exec Unit :=
  Exec.modify (·.modifyObj r fun o => { o with kind := c.change f o.kind })

/-- A key of a collection that holds its keys weakly. -/
def checkWeak (c : Container) (k : Value) : Exec Unit := do
  if ! (← isHoldable k) then typeError ("invalid value used as " ++ c.name ++ " key")

def hasMethod (c : Container) : Entry :=
  .method "has" 1 (c.question fun es args => .bool (Entries.place? es (nth args 0)).isSome)

def deleteMethod (c : Container) : Entry :=
  .method "delete" 1 fun this args => do
    let (r, isThere) ← c.on this fun es => (Entries.place? es (nth args 0)).isSome
    c.modify r fun es => Entries.remove es (nth args 0)
    return .bool isThere

def getMethod (c : Container) : Entry :=
  .method "get" 1 (c.question fun es args => (Entries.get? es (nth args 0)).getD .undefined)

def setMethod (c : Container) (weak : Bool) : Entry :=
  .method "set" 2 fun this args => do
    let r ← c.self this
    if weak then c.checkWeak (nth args 0)
    c.modify r fun es => Entries.put es (nth args 0) (nth args 1)
    return .object r

def addMethod (c : Container) (weak : Bool) : Entry :=
  .method "add" 1 fun this args => do
    let r ← c.self this
    if weak then c.checkWeak (nth args 0)
    c.modify r fun es => Entries.put es (nth args 0) (keyOf (nth args 0))
    return .object r

def clearMethod (c : Container) : Entry :=
  .method "clear" 0 fun this _ => do
    c.modify (← c.self this) fun es => es.map fun _ => none
    return .undefined

def sizeGetter (c : Container) : Entry :=
  .getter "size" (c.question fun es _ => .ofNat (Entries.count es))

/-- The entry at a place or after it, while there is one. -/
def entryFrom (c : Container) (r : Ref) (i : Nat) : Exec (Option (Nat × Value × Value)) :=
  inspect r fun kind => do (← c.entries? kind).firstFrom i

def forEachMethod (c : Container) : Entry :=
  .method "forEach" 1 fun this args => do
    let r ← c.self this
    let f ← callback (nth args 0)
    iterate 0 fun i => do
      match ← c.entryFrom r i with
      | none => return .ok ()
      | some (j, k, v) =>
        let _ ← call f (nth args 1) [v, k, .object r]
        return .error (j + 1)
    return .undefined

def iteratorCode (c : Container) (prototype : Intrinsic) (p : Portion) : Code := fun this _ => do
  newIterator prototype (.entryIterator (.object (← c.self this)) 0 p)

/-- Fills a new collection with what an iterable gives, by one of its own methods. -/
def construct (c : Container) (prototype : Intrinsic) (adder : String) (pairs : Bool)
    (args : List Value) (newTarget : Value) : Exec Value := do
  let p ← prototypeFor newTarget prototype
  let r ← newObject { prototype := some p, kind := c.empty }
  if ! (nth args 0).isNullish then
    let f ← callback (← getNamed r adder)
    forValues (nth args 0) fun v => do
      if pairs then
        match v with
        | .object e =>
          let k ← get e (.index 0)
          let w ← get e (.index 1)
          let _ ← call f (.object r) [k, w]
        | _ => typeError "not an object"
      else
        let _ ← call f (.object r) [v]
  return .object r

end Container

/-- The next entry of an iterator over a collection. -/
def nextEntry (c : Container) (this : Value) (_ : List Value) : Exec Value := do
  match this with
  | .object it =>
    match ← kindOf it with
    | .entryIterator (.object r) i p =>
      match ← c.entryFrom r i with
      | some (j, k, v) =>
        modify (·.modifyObj it fun o => { o with kind := .entryIterator (.object r) (j + 1) p })
        match p with
        | .keys => iteratorResult k false
        | .values => iteratorResult v false
        | .entries => iteratorResult (← newArray [k, v]) false
      | none =>
        modify (·.modifyObj it fun o => { o with kind := .entryIterator .undefined 0 p })
        iteratorResult .undefined true
    | .entryIterator .. => iteratorResult .undefined true
    | _ => typeError (c.name ++ " Iterator object expected")
  | _ => typeError (c.name ++ " Iterator object expected")

def speciesGetter : Entry := .symbolGetter .species "get [Symbol.species]" fun this _ => return this

def mapConstructor : Constructor :=
  { name := "Map", length := 0, prototype := some .mapPrototype
    call := needsNew
    construct := mapContainer.construct .mapPrototype "set" true
    own := [
      .method "groupBy" 2 (fun _ args => do
        let groups ← groupValues (nth args 0) (nth args 1) (fun v => return keyOf v) (·.sameOrZero ·)
        let es ← mapEach (fun (k, vs) => do return some (k, ← newArray vs)) groups []
        return .object (← newObject
          { prototype := some Intrinsic.mapPrototype.ref, kind := .map es.toArray })),
      speciesGetter]
    methods := [
      mapContainer.setMethod false, mapContainer.getMethod, mapContainer.hasMethod,
      mapContainer.deleteMethod, mapContainer.clearMethod, mapContainer.sizeGetter,
      mapContainer.forEachMethod,
      .method "values" 0 (mapContainer.iteratorCode .mapIteratorPrototype .values),
      .method "keys" 0 (mapContainer.iteratorCode .mapIteratorPrototype .keys),
      .method "entries" 0 (mapContainer.iteratorCode .mapIteratorPrototype .entries),
      .symbolAlias .iterator "entries", .tag "Map"] }

/-- An object that can be asked about members like a set. -/
structure SetLike where
  value : Value
  size : Nat
  has : Value
  keys : Value

/-- A method that an object like a set must have. -/
def setLikeMethod (v : Value) (name : String) : Exec Value := do
  let f ← getNamedOf v name
  if f.isUndefined then typeError ("." ++ name ++ " is undefined")
  if ! (← isCallable f) then typeError ("." ++ name ++ " is not a function")
  return f

def setLike (v : Value) : Exec SetLike := do
  let size ← getNamedOf v "size"
  if size.isUndefined then typeError ".size is undefined"
  let x ← toNumber size
  if x.isNaN then typeError ".size is not a number"
  if x ≤ -1 then rangeError ".size must be positive"
  let has ← setLikeMethod v "has"
  let keys ← setLikeMethod v "keys"
  return ⟨v, clampNat x mostLength, has, keys⟩

/-- Whether an object like a set has a member. -/
def SetLike.holds (o : SetLike) (v : Value) : Exec Bool := do
  return (← call o.has o.value [v]).truth

/-- What a computation makes of the members of an object like a set, one after another, as long as
it wants more. -/
def SetLike.fold {α : Type} (o : SetLike) (start : α) (step : α → Value → Exec (Bool × α)) :
    Exec α := do
  let it ← call o.keys o.value []
  let i : Iteration := ⟨it, ← getNamedOf it "next"⟩
  iterate start fun a => do
    match ← nextValue i with
    | none => return .ok a
    | some v =>
      let (more, a) ← step a (keyOf v)
      if more then return .error a
      closeIteration i
      return .ok a

/-- What a computation makes of the members of a set, one after another, as long as it wants
more. -/
def foldMembers {α : Type} (r : Ref) (start : α) (step : α → Value → Exec (Bool × α)) : Exec α :=
  iterate (0, start) fun (i, a) => do
    match ← setContainer.entryFrom r i with
    | none => return .ok a
    | some (j, v, _) =>
      let (more, a) ← step a v
      return if more then .error (j + 1, a) else .ok a

/-- Whether a set has a member. -/
def isMember (r : Ref) (v : Value) : Exec Bool := do
  return (← setContainer.on (.object r) fun es => (Entries.place? es v).isSome).2

def membersOf (r : Ref) : Exec Entries := do
  return (← setContainer.on (.object r) fun es => es.filter (·.isSome)).2

/-- As `foldMembers` or `SetLike.fold`, whichever has fewer members, told whether each of them is a
member of both. -/
def foldFewer {α : Type} (r : Ref) (count : Nat) (o : SetLike) (start : α)
    (step : α → Value → Bool → Bool × α) : Exec α :=
  if count ≤ o.size then foldMembers r start fun a v => return step a v (← o.holds v)
  else o.fold start fun a v => return step a v (← isMember r v)

def newSet (es : Entries) : Exec Value := do
  return .object (← newObject { prototype := some Intrinsic.setPrototype.ref, kind := .set es })

/-- A method that compares a set of some size with an object like a set. -/
def setMethod (name : String) (f : Ref → Nat → SetLike → Exec Value) : Entry :=
  .method name 1 fun this args => do
    let r ← setContainer.self this
    let o ← setLike (nth args 0)
    f r (← membersOf r).size o

def setComparisons : List Entry := [
  setMethod "isDisjointFrom" fun r count o =>
    return .bool (← foldFewer r count o true fun _ _ both => (! both, ! both)),
  setMethod "isSubsetOf" fun r count o => do
    if o.size < count then return .bool false
    return .bool (← foldMembers r true fun _ v => do
      let held ← o.holds v
      return (held, held)),
  setMethod "isSupersetOf" fun r count o => do
    if count < o.size then return .bool false
    return .bool (← o.fold true fun _ v => do
      let held ← isMember r v
      return (held, held)),
  setMethod "intersection" fun r count o => do
    newSet (← foldFewer r count o (#[] : Entries) fun es v both =>
      (true, if both then Entries.put es v v else es)),
  setMethod "difference" fun r count o => do
    if count ≤ o.size then
      newSet (← foldMembers r (#[] : Entries) fun es v => do
        return (true, if ← o.holds v then es else Entries.put es v v))
    else newSet (← o.fold (← membersOf r) fun es v => return (true, Entries.remove es v)),
  setMethod "symmetricDifference" fun r _ o => do
    newSet (← o.fold (← membersOf r) fun es v => do
      return (true, if ← isMember r v then Entries.remove es v else Entries.put es v v)),
  setMethod "union" fun r _ o => do
    newSet (← o.fold (← membersOf r) fun es v => return (true, Entries.put es v v))]

def setConstructor : Constructor :=
  { name := "Set", length := 0, prototype := some .setPrototype
    call := needsNew
    construct := setContainer.construct .setPrototype "add" false
    own := [speciesGetter]
    methods := [
      setContainer.addMethod false, setContainer.hasMethod, setContainer.deleteMethod,
      setContainer.clearMethod, setContainer.sizeGetter, setContainer.forEachMethod] ++ setComparisons ++ [
      .method "values" 0 (setContainer.iteratorCode .setIteratorPrototype .values),
      .alias "keys" "values", .symbolAlias .iterator "values",
      .method "entries" 0 (setContainer.iteratorCode .setIteratorPrototype .entries),
      .tag "Set"] }

def weakMapConstructor : Constructor :=
  { name := "WeakMap", length := 0, prototype := some .weakMapPrototype
    call := needsNew
    construct := weakMapContainer.construct .weakMapPrototype "set" true
    methods := [weakMapContainer.setMethod true, weakMapContainer.getMethod,
      weakMapContainer.hasMethod, weakMapContainer.deleteMethod, .tag "WeakMap"] }

def weakSetConstructor : Constructor :=
  { name := "WeakSet", length := 0, prototype := some .weakSetPrototype
    call := needsNew
    construct := weakSetContainer.construct .weakSetPrototype "add" false
    methods := [weakSetContainer.addMethod true, weakSetContainer.hasMethod,
      weakSetContainer.deleteMethod, .tag "WeakSet"] }

def settle (r : Ref) (state : PromiseState) : Exec Unit :=
  modify (·.modifyObj r fun o =>
    match o.kind with
    | .promise .pending => { o with kind := .promise state }
    | _ => o)

/-- Fulfils a promise; with a value that is a promise itself it waits. -/
def fulfil (r : Ref) (v : Value) : Exec Unit := do
  match ← resolvedPromise v with
  | .object q =>
    match ← kindOf q with
    | .promise state => settle r state
    | _ => return ()
  | _ => return ()

/-- The function that settles the promise it is bound to. -/
def settler (rejects : Bool) : Code := fun this args => do
  match this with
  | .object r =>
    if rejects then settle r (.rejected (nth args 0)) else fulfil r (nth args 0)
    return .undefined
  | _ => return .undefined

/-- A settler for one promise. -/
def settlerOf (r : Ref) (rejects : Bool) : Exec Value :=
  actingOn (if rejects then .rejecter else .fulfiller) r 1

def constructPromise (args : List Value) (newTarget : Value) : Exec Value := do
  let f ← callback (nth args 0)
  let p ← prototypeFor newTarget .promisePrototype
  let r ← newObject { prototype := some p, kind := .promise .pending }
  let resolve ← settlerOf r false
  let reject ← settlerOf r true
  catchThrown
    (do
      let _ ← call f .undefined [resolve, reject])
    fun v => do
      let _ ← call reject .undefined [v]
  return .object r

/-- A promise and the functions that settle it. -/
structure Settleable where
  promise : Value
  fulfil : Value
  reject : Value

/-- Takes the functions that settle a promise from its constructor. -/
def collect : Code := fun this args => do
  match this with
  | .object r =>
    forEach
      (fun i => do
        if ! (← get r (.index i)).isUndefined then typeError "resolving function already set"
        set r (.index i) (nth args i))
      [0, 1]
    return .undefined
  | _ => return .undefined

/-- A promise that a constructor makes. -/
def settleable (maker : Value) : Exec Settleable := do
  let r ← newObject {}
  let promise ← construct maker [← actingOn .collector r 2] maker
  let fulfil ← callback (← get r (.index 0))
  let reject ← callback (← get r (.index 1))
  return ⟨promise, fulfil, reject⟩

/-- A method of a constructor of promises, which makes one. -/
def makesPromise (f : Value → Settleable → List Value → Exec Unit) : Code := fun this args => do
  match this with
  | .object _ =>
    let s ← settleable this
    f this s args
    return s.promise
  | _ => typeError "not an object"

/-- Rejects a promise if a computation throws. -/
def Settleable.try (s : Settleable) (x : Exec Unit) : Exec Unit :=
  catchThrown x fun v => do
    let _ ← call s.reject .undefined [v]

/-- Waits for each value that an iterable gives. -/
def waiting : Code := makesPromise fun this s args => s.try do
  let resolve ← callback (← getNamedOf this "resolve")
  forValues (nth args 0) fun v => do
    let promise ← call resolve this [v]
    let _ ← invoke promise "then" [s.fulfil, s.reject]

/-- A promise for a value: the value itself, if it is one of the same constructor. -/
def resolveValue (this : Value) (args : List Value) : Exec Value := do
  let isOurs ←
    match this, nth args 0 with
    | .object _, .object r =>
      match ← kindOf r with
      | .promise _ => pure ((← getNamed r "constructor").same this)
      | _ => pure false
    | _, _ => pure false
  if isOurs then return nth args 0
  makesPromise (fun _ s args => do let _ ← call s.fulfil .undefined [nth args 0]) this args

/-- What follows a promise once it is settled is another one. -/
def afterwards (this : Value) (_ : List Value) : Exec Value := do
  match this with
  | .object r =>
    match ← kindOf r with
    | .promise _ => return (← settleable (← constructorFor r .promiseConstructor)).promise
    | _ => typeError "Promise object expected"
  | _ => typeError "Promise object expected"

def promiseConstructor : Constructor :=
  { name := "Promise", length := 1, prototype := some .promisePrototype
    place := some .promiseConstructor
    call := needsNew
    construct := constructPromise
    own := [
      .method "resolve" 1 resolveValue,
      .method "reject" 1 (makesPromise fun _ s args => do
        let _ ← call s.reject .undefined [nth args 0]),
      .method "all" 1 waiting, .method "allSettled" 1 waiting, .method "any" 1 waiting,
      .method "try" 1 (makesPromise fun _ s args => s.try do
        let v ← call (nth args 0) .undefined (args.drop 1)
        let _ ← call s.fulfil .undefined [v]),
      .method "race" 1 waiting,
      .method "withResolvers" 0 fun this _ => do
        match this with
        | .object _ =>
          let s ← settleable this
          let r ← emptyObject
          defineValue r (.ofString "promise") s.promise
          defineValue r (.ofString "resolve") s.fulfil
          defineValue r (.ofString "reject") s.reject
          return .object r
        | _ => typeError "not an object",
      speciesGetter]
    methods := [
      .method "then" 2 afterwards,
      .method "catch" 1 fun this args => invoke this "then" [.undefined, nth args 0],
      .method "finally" 1 fun this args => do
        match this with
        | .object r => let _ ← constructorFor r .promiseConstructor
        | _ => typeError "not an object"
        invoke this "then" [nth args 0, nth args 0],
      .tag "Promise"] }

def setProgress (r : Ref) (p : Progress) : Exec Unit :=
  modify (·.modifyObj r fun o =>
    match o.kind with
    | .generator _ function => { o with kind := .generator p function }
    | _ => o)

/-- Enters a generator with a signal. -/
def resume (signal : Value → Signal) : Code := fun this args => do
  match this with
  | .object r =>
    match ← kindOf r with
    | .generator (.suspended id) function =>
      setProgress r .running
      match ← resumeAs function id (signal (nth args 0)) with
      | .value v =>
        setProgress r (.suspended id)
        iteratorResult v false
      | .finished v =>
        setProgress r .finished
        iteratorResult v true
      | .failed f =>
        setProgress r .finished
        fail f
    | .generator .running _ => typeError "cannot invoke a running generator"
    | .generator .finished _ =>
      match signal (nth args 0) with
      | .next _ => iteratorResult .undefined true
      | .throw v => throwValue v
      | .return v => iteratorResult v true
    | _ => typeError "not a generator"
  | _ => typeError "not a generator"

/-- Enters a generator whose values come later: it runs up to the first of them. -/
def resumeLater (signal : Value → Signal) : Code := fun this args => do
  match this with
  | .object r =>
    match ← kindOf r with
    | .generator (.suspended id) function =>
      setProgress r .running
      match ← resumeAs function id (signal (nth args 0)) with
      | .value _ => newPromise .pending
      | .finished v =>
        setProgress r .finished
        newPromise (.fulfilled (← iteratorResult v true))
      | .failed (.thrown v) =>
        setProgress r .finished
        newPromise (.rejected v)
      | .failed f => fail f
    | .generator .. => newPromise .pending
    | _ => newPromise (.rejected .undefined)
  | _ => newPromise (.rejected .undefined)

/-- The objects that iterators and generators take their methods from. -/
def iteratorMethods : List (Intrinsic × List Entry) :=
  [(.asyncIteratorPrototype,
    [.symbolMethod .asyncIterator "[Symbol.asyncIterator]" 0 fun this _ => return this]),
   (.arrayIteratorPrototype, [.method "next" 0 nextElement, .tag "Array Iterator"]),
   (.mapIteratorPrototype, [.method "next" 0 (nextEntry mapContainer), .tag "Map Iterator"]),
   (.setIteratorPrototype, [.method "next" 0 (nextEntry setContainer), .tag "Set Iterator"]),
   (.generatorPrototype,
    [.method "next" 1 (resume .next), .method "return" 1 (resume .return),
     .method "throw" 1 (resume .throw), .tag "Generator",
     .told "constructor" (.object Intrinsic.generatorFunctionPrototype.ref)]),
   (.asyncGeneratorPrototype,
    [.method "next" 1 (resumeLater .next), .method "return" 1 (resumeLater .return),
     .method "throw" 1 (resumeLater .throw), .tag "AsyncGenerator",
     .told "constructor" (.object Intrinsic.asyncGeneratorFunctionPrototype.ref)])]

end CollectionRunner.Script.Library
