import CollectionRunner.Script.Library.Objects
import CollectionRunner.Script.Library.Functions
import CollectionRunner.Script.Library.Numbers
import CollectionRunner.Script.Library.Globals
import CollectionRunner.Script.Library.Expressions
import CollectionRunner.Script.Library.Collections
import CollectionRunner.Script.Library.Iterators
import CollectionRunner.Script.Library.Weak
import CollectionRunner.Script.Library.Dates
import CollectionRunner.Script.Library.Notation
import CollectionRunner.Script.Library.Atomics

namespace CollectionRunner.Script.Library

open Intrinsic

/-- The object that a provided object takes its properties from. -/
def parentOf (i : Intrinsic) : Option Intrinsic :=
  match i with
  | .objectPrototype => none
  | .evalErrorPrototype | .rangeErrorPrototype | .referenceErrorPrototype | .syntaxErrorPrototype
  | .typeErrorPrototype | .uriErrorPrototype | .internalErrorPrototype
  | .aggregateErrorPrototype => some .errorPrototype
  | .arrayIteratorPrototype | .stringIteratorPrototype | .mapIteratorPrototype
  | .setIteratorPrototype | .matchIteratorPrototype | .generatorPrototype
  | .adaptedPrototype | .wrappedPrototype =>
    some .iteratorPrototype
  | .asyncGeneratorPrototype => some .asyncIteratorPrototype
  | .generatorFunctionPrototype | .asyncFunctionPrototype | .asyncGeneratorFunctionPrototype
  | .functionConstructor | .errorConstructor | .iteratorConstructor | .arrayConstructor
  | .regexpConstructor
  | .promiseConstructor | .typedConstructor
  | .thrower | .fulfiller | .rejecter | .evaluator | .revoker | .collector =>
    some .functionPrototype
  | .int8Prototype | .uint8Prototype | .uint8ClampedPrototype | .int16Prototype | .uint16Prototype
  | .int32Prototype | .uint32Prototype | .bigInt64Prototype | .bigUint64Prototype
  | .float16Prototype | .float32Prototype | .float64Prototype => some .typedPrototype
  | _ => some .objectPrototype

def kindAtStart (i : Intrinsic) : Kind :=
  match i with
  | .arrayPrototype => .array #[] 0 true
  | .stringPrototype => .boxed (.text #[])
  | .numberPrototype => .boxed (.number 0)
  | .booleanPrototype => .boxed (.bool false)
  | _ => .plain

/-- What has been made so far: the objects, and the code of the functions among them, the last ones
first, and what has been done to objects since they were added, the latest first. -/
structure Building where
  objects : List Obj
  natives : List Native := []
  edits : List (Ref × (Obj → Obj)) := []

/-- An object as a function that is told by its number. -/
def asNative (id : Nat) (constructs : Bool) (name : String) (length : Nat) (o : Obj) : Obj :=
  { o with
    kind := .native id constructs
    properties := Exec.functionProperties length (.ofString name) ++ o.properties }

def plainNative (code : Code) : Native := { call := code, construct := notConstructor }

namespace Building

variable (b : Building)

/-- The object that is added next. -/
def next : Ref := b.objects.length

def add (o : Obj) : Building := { b with objects := o :: b.objects }

def edit (r : Ref) (f : Obj → Obj) : Building := { b with edits := (r, f) :: b.edits }

/-- Gives an object a property. No object is given two of one name. -/
def give (r : Ref) (k : Key) (p : Property) : Building :=
  b.edit r fun o => { o with properties := o.properties.push (k, p) }

def giveNamed (r : Ref) (name : String) (p : Property) : Building := b.give r (.ofString name) p

/-- An object after all that has been done to it. -/
def obj (r : Ref) : Obj :=
  b.edits.foldr (fun e o => if e.1 = r then e.2 o else o) (b.objects.getD (b.next - (r + 1)) {})

/-- Makes an object a function. -/
def makeNative (r : Ref) (name : String) (length : Nat) (native : Native) (constructs : Bool) :
    Building :=
  { b with natives := native :: b.natives }.edit r
    (asNative b.natives.length constructs name length)

def addFunction (name : String) (length : Nat) (code : Code) : Value × Building :=
  let o := asNative b.natives.length false name length { prototype := some functionPrototype.ref }
  (.object b.next, { b with objects := o :: b.objects, natives := plainNative code :: b.natives })

def addEntry (r : Ref) : Entry → Building
  | .method name length code =>
    let (f, b) := b.addFunction name length code
    b.giveNamed r name (.silent f)
  | .symbolMethod s name length code =>
    let (f, b) := b.addFunction name length code
    b.give r s.key
      (match s with
        | .hasInstance => .fixed f
        | .toPrimitive => .told f
        | _ => .silent f)
  | .getter name code =>
    let (f, b) := b.addFunction ("get " ++ name) 0 code
    b.giveNamed r name { slot := .accessor f .undefined, enumerable := false }
  | .symbolGetter s name code =>
    let (f, b) := b.addFunction name 0 code
    b.give r s.key { slot := .accessor f .undefined, enumerable := false }
  | .accessor name read write =>
    let (f, b) := b.addFunction ("get " ++ name) 0 read
    let (g, b) := b.addFunction ("set " ++ name) 1 write
    b.giveNamed r name { slot := .accessor f g, enumerable := false }
  | .symbolAccessor s name read write =>
    let (f, b) := b.addFunction ("get " ++ name) 0 read
    let (g, b) := b.addFunction ("set " ++ name) 1 write
    b.give r s.key { slot := .accessor f g, enumerable := false }
  | .constant name v => b.giveNamed r name (.fixed v)
  | .field name v => b.giveNamed r name (.silent v)
  | .told name v => b.giveNamed r name (.told v)
  | .forbidden name =>
    b.giveNamed r name
      { slot := .accessor (.object thrower.ref) (.object thrower.ref), enumerable := false }
  | .borrowed owner name => share (.ofString name) ((b.obj owner.ref).listed? (.ofString name))
  | .tag name => b.give r KnownSymbol.toStringTag.key (.told (.ofString name))
  | .alias name existing => share (.ofString name) ((b.obj r).listed? (.ofString existing))
  | .symbolAlias s existing => share s.key ((b.obj r).listed? (.ofString existing))
where
  /-- Gives the object a property that there is already. -/
  share (k : Key) : Option Property → Building
    | some p => b.give r k p
    | none => b

def addEntries (r : Ref) (entries : List Entry) : Building := entries.foldl (·.addEntry r) b

def giveGlobal (name : String) (v : Value) : Building := b.giveNamed global.ref name (.silent v)

/-- Ties a constructor's function and a prototype to each other, and adds the prototype's
properties. -/
def addPrototype (c : Constructor) (r : Ref) (p : Intrinsic) : Building :=
  let b := b.giveNamed r "prototype" (.fixed (.object p.ref))
  let tell (b : Building) := b.giveNamed p.ref "constructor" (c.constructorProperty (.object r))
  if c.constructorFirst then (tell b).addEntries p.ref c.methods
  else tell (b.addEntries p.ref c.methods)

/-- Makes an object a constructor's function. -/
def makeConstructor (c : Constructor) (r : Ref) : Building :=
  let prototype := some (c.parent.getD functionPrototype).ref
  let native : Native := { call := fun _ args => c.call args, construct := c.construct }
  let b := (b.edit r fun o => { o with prototype }).makeNative r c.name c.length native true
  let b :=
    match c.prototype with
    | some p => b.addPrototype c r p
    | none => b
  let b := b.addEntries r c.own
  if c.isGlobal then b.giveGlobal c.name (.object r) else b

/-- Adds a constructor: its function, the prototype, and the properties of both. -/
def addConstructor (c : Constructor) : Building :=
  match c.place with
  | some i => b.makeConstructor c i.ref
  | none => (b.add {}).makeConstructor c b.next

def addHolder (h : Holder) : Building :=
  ((b.add { prototype := some objectPrototype.ref }).addEntries b.next h.entries).giveGlobal
    h.name (.object b.next)

end Building

/-- Methods of arrays whose names mean something else where an array's properties are in scope. -/
def unscopables : List String :=
  ["at", "copyWithin", "entries", "fill", "find", "findIndex", "findLast", "findLastIndex", "flat",
   "flatMap", "includes", "keys", "toReversed", "toSorted", "toSpliced", "values"]

def Building.addUnscopables (b : Building) : Building :=
  let named := unscopables.foldl
    (fun b' name => b'.giveNamed b.next name (.plain (.bool true))) (b.add {})
  named.give arrayPrototype.ref KnownSymbol.unscopables.key (.told (.object b.next))

/-- The constructors that come before the functions of the global object. -/
def firstConstructors : List Constructor :=
  [objectConstructor, functionConstructor] ++ functionMakers ++ errorConstructors ++
    [Library.iteratorConstructor, arrayConstructor]

def otherConstructors : List Constructor :=
  [numberConstructor, booleanConstructor, stringConstructor, symbolConstructor] ++
    [dateConstructor, regexpConstructor, proxyConstructor, mapConstructor, setConstructor,
     weakMapConstructor, weakSetConstructor, bufferConstructor, sharedBufferConstructor,
     typedConstructor] ++
    typedConstructors ++ [viewConstructor, promiseConstructor, bigintConstructor,
      weakRefConstructor, registryConstructor]

/-- The objects that are there before any function is. -/
def bare : Building :=
  { objects := (all.map fun i =>
      ({ prototype := (parentOf i).map (·.ref), kind := kindAtStart i } : Obj)).reverse }

/-- All objects of the language. -/
def language : Building :=
  let plain (r : Intrinsic) (name : String) (length : Nat) (code : Code) (b : Building) :=
    b.makeNative r.ref name length (plainNative code) false
  let b := plain functionPrototype "" 0 (fun _ _ => return .undefined) bare
  let b := plain thrower "" 0 (fun _ _ => Exec.typeError "invalid property access") b
  let b := plain fulfiller "" 1 (settler false) b
  let b := plain rejecter "" 1 (settler true) b
  let b := plain revoker "" 0 revoke b
  let b := plain collector "" 2 collect b
  let b := plain evaluator "eval" 1 (fun _ args => Exec.evalApart (nth args 0)) b
  let b := (firstConstructors.foldl .addConstructor b).addEntries global.ref globals
  let b := otherConstructors.foldl .addConstructor b
  let b := (iteratorMethods ++ adaptedMethods).foldl (fun b (i, entries) => b.addEntries i.ref entries) b
  let b := b.addEntries stringIteratorPrototype.ref
    [.method "next" 0 nextCharacter, .tag "String Iterator"]
  let b := b.addEntries matchIteratorPrototype.ref matchIteratorMethods
  let b := (b.giveGlobal "eval" (.object evaluator.ref)).giveGlobal "globalThis" (.object global.ref)
  [reflect, math, json, atomics, performance].foldl .addHolder b.addUnscopables

/-- What a script has at its beginning: a store, and the code of the functions in it. -/
structure Beginning where
  store : Store
  natives : Array Native

/-- What has been built, as a script finds it. -/
def Building.finished (b : Building) : Beginning where
  store :=
    { objects := ((List.range b.next).map b.obj).toArray
      scopes := #[{ frame := some { this := some (.object global.ref) }, kept := true }]
      symbols := (KnownSymbol.all.map fun s => some (.ofString ("Symbol." ++ s.name))).toArray }
  natives := b.natives.reverse.toArray

end CollectionRunner.Script.Library
