import CollectionRunner.Script.Term
import CollectionRunner.Script.Behaviour
import CollectionRunner.Http.Response

namespace CollectionRunner.Script

/-- The place of an object in the store. -/
abbrev Ref := Nat

inductive Value where
  | undefined
  | null
  | bool (b : Bool)
  | number (x : Float)
  | big (n : Int)
  | text (u : Units)
  | symbol (id : Nat)
  | object (r : Ref)
  deriving Inhabited

namespace Value

def ofString (s : String) : Value := .text (.ofString s)

def ofNat (n : Nat) : Value := .number (natFloat n)

def ofInt (n : Int) : Value := .number (intFloat n)

def isNullish : Value → Bool
  | .undefined | .null => true
  | _ => false

def isUndefined : Value → Bool
  | .undefined => true
  | _ => false

def ref? : Value → Option Ref
  | .object r => some r
  | _ => none

def truth : Value → Bool
  | .undefined | .null => false
  | .bool b => b
  | .number x => ! (x == 0 || x.isNaN)
  | .big n => n != 0
  | .text u => ! u.isEmpty
  | .symbol _ | .object _ => true

/-- Whether two values are the same, with every number that is none the same, and the two zeros
told apart. -/
def same : Value → Value → Bool
  | .undefined, .undefined | .null, .null => true
  | .bool a, .bool b => a == b
  | .number a, .number b => if a.isNaN then b.isNaN else a.toBits == b.toBits
  | .big a, .big b => a == b
  | .text a, .text b => a == b
  | .symbol a, .symbol b => a == b
  | .object a, .object b => a == b
  | _, _ => false

/-- The comparison by `===`. -/
def strictlyEqual : Value → Value → Bool
  | .number a, .number b => a == b
  | a, b => same a b

/-- As `same`, with the two zeros not told apart. -/
def sameOrZero : Value → Value → Bool
  | .number a, .number b => a == b || (a.isNaN && b.isNaN)
  | a, b => same a b

/-- The value of a property's name. -/
def ofKey : Key → Value
  | .index n => ofString (toString n)
  | .text u => .text u
  | .symbol id => .symbol id

end Value

/-- What a property holds: a value, or functions that read and write it. -/
inductive Slot where
  | data (value : Value) (writable : Bool)
  | accessor (read write : Value)
  deriving Inhabited

structure Property where
  slot : Slot
  enumerable : Bool := true
  configurable : Bool := true
  deriving Inhabited

def Property.plain (v : Value) : Property := { slot := .data v true }

/-- A property that is not listed with the others. -/
def Property.silent (v : Value) : Property := { slot := .data v true, enumerable := false }

def Property.fixed (v : Value) : Property :=
  { slot := .data v false, enumerable := false, configurable := false }

/-- Where a class's method or field is kept. -/
inductive Place where
  | key (k : Key)
  | hidden (id : Nat)
  deriving DecidableEq, Inhabited

/-- A field that a class gives its new objects: its place and the function that gives its value. -/
structure Field where
  place : Place
  value : Option Ref
  deriving Inhabited

/-- A function of the script with the variables around it. -/
structure Closure where
  code : Function
  scope : Nat
  /-- The object whose prototype `super` starts from. -/
  home : Option Ref := none
  fields : List Field := []
  /-- Hidden methods that each new object of a class gets. -/
  hiddenMethods : List (Nat × Slot) := []
  deriving Inhabited

/-- What an iterator over an object's elements gives. -/
inductive Portion where
  | keys
  | values
  | entries
  deriving DecidableEq, Inhabited

/-- The element types of typed arrays. -/
inductive ElementType where
  | int8 | uint8 | uint8Clamped | int16 | uint16 | int32 | uint32 | bigInt64 | bigUint64
  | float16 | float32 | float64
  deriving DecidableEq, Repr, Inhabited

inductive PromiseState where
  | pending
  | fulfilled (v : Value)
  | rejected (v : Value)
  deriving Inhabited

/-- How far a generator is. -/
inductive Progress where
  | suspended (id : Nat)
  | running
  | finished
  deriving DecidableEq, Inhabited

/-- What an iterator makes of the values of another one. -/
inductive Adaptation where
  | drop
  | filter
  | flatMap
  | map
  | take
  deriving DecidableEq, Inhabited

/-- An iterator that draws on another one. -/
structure Adapted where
  adaptation : Adaptation
  source : Value
  /-- The source's method that gives the next value. -/
  next : Value
  function : Value
  /-- How many values are left to drop or to take, or how many have been seen. -/
  count : Nat
  /-- The iterator whose values come first, where the function gives iterators. -/
  inner : Option Value := none
  running : Bool := false
  done : Bool := false
  deriving Inhabited

/-- What an object is, and what it holds besides its properties. -/
inductive Kind where
  | plain
  /-- Elements in a row, of which some may be missing, and the length. -/
  | array (items : Array (Option Value)) (length : Nat) (lengthWritable : Bool)
  | function (c : Closure)
  /-- A function that the language or the host provides, by its place in the list of all. -/
  | native (id : Nat) (isConstructor : Bool)
  | bound (target : Ref) (this : Value) (args : List Value)
  | error
  | boxed (v : Value)
  | date (time : Float)
  | regexp (source flags : Units)
  | map (entries : Array (Option (Value × Value)))
  | set (entries : Array (Option (Value × Value)))
  | weakMap (entries : Array (Option (Value × Value)))
  | weakSet (entries : Array (Option (Value × Value)))
  | promise (state : PromiseState)
  | proxy (target handler : Option Ref) (callable constructible : Bool)
  /-- What `arguments` stands for. Some of it is kept in variables as well: places of arguments, and
  the scopes and the places in them of their variables. -/
  | arguments (twins : List (Nat × Nat × Nat))
  | buffer (bytes : Array UInt8) (shared : Bool)
  | typed (type : ElementType) (buffer : Ref) (offset length : Nat)
  | dataView (buffer : Ref) (offset length : Nat)
  | elementIterator (subject : Value) (next : Nat) (portion : Portion)
  | textIterator (text : Units) (next : Nat)
  | entryIterator (subject : Value) (next : Nat) (portion : Portion)
  | matchIterator (matcher : Value) (text : Units) (isGlobal unicode done : Bool)
  | generator (progress : Progress) (function : Ref)
  | adapted (a : Adapted)
  /-- An iterator that stands for a value with a method `next`. -/
  | wrapped (iterator next : Value)
  | weakRef (v : Value)
  /-- What the marks of the objects that are watched are. -/
  | registry (marks : List Value)
  deriving Inhabited

structure Obj where
  prototype : Option Ref := none
  extensible : Bool := true
  properties : Array (Key × Property) := #[]
  /-- Properties with hidden names. -/
  hidden : Array (Nat × Slot) := #[]
  kind : Kind := .plain
  deriving Inhabited

structure Variable where
  name : String
  /-- There is no value before the variable's declaration is reached. -/
  value : Option Value
  constant : Bool := false
  /-- Assignments to a constant are passed over. -/
  lenient : Bool := false
  /-- The object and the place in it of an argument that the variable stands for. -/
  twin : Option (Ref × Nat) := none
  deriving Inhabited

/-- What a call gives the function besides its arguments. -/
structure Frame where
  /-- There is none in a derived class's constructor before it has called its parent's. -/
  this : Option Value
  function : Option Ref := none
  newTarget : Value := .undefined
  home : Option Ref := none
  /-- What `arguments` stands for, as long as it has not been used. -/
  arguments : Option (List Value) := none
  isStrict : Bool := true
  deriving Inhabited

/-- What a hidden name of a class stands for. -/
inductive HiddenKind where
  | field
  | method
  | getter
  | setter
  /-- An accessor with both sides. -/
  | accessor
  deriving DecidableEq, Inhabited

structure HiddenName where
  name : String
  id : Nat
  kind : HiddenKind
  deriving Inhabited

structure Scope where
  parent : Option Nat := none
  vars : Array Variable := #[]
  hidden : List HiddenName := []
  frame : Option Frame := none
  /-- An object whose properties come before all names outside. -/
  subject : Option Ref := none
  /-- Functions have been made within it, which may use it later. -/
  kept : Bool := false
  deriving Inhabited

/-- A call under way: its function, or none for the text of a script, the name of the text that it
runs, unless it is provided, and the place that it has come to. -/
structure Call where
  function : Option Ref
  file : Option String
  position : Position := {}
  deriving Inhabited

structure Store where
  objects : Array Obj := #[]
  scopes : Array Scope := #[]
  /-- The descriptions of symbols. -/
  symbols : Array (Option Units) := #[]
  /-- Symbols that are shared by their names. -/
  shared : Array (Units × Nat) := #[]
  /-- How many calls are under way. -/
  depth : Nat := 0
  /-- The calls under way, the last one first. -/
  calls : List Call := []
  /-- The calls that were under way when the script was last told to end. -/
  interruptedIn : List Call := []
  /-- How many times the script goes on without asking whether it has to end. -/
  patience : Nat := 0
  /-- How many calls an error tells. -/
  traceLimit : Value := .number 10
  /-- The texts of templates by the numbers of these, and how many numbers have been given. -/
  templates : Array (Nat × Ref) := #[]
  sites : Nat := 0
  /-- The value of the text that is being evaluated, so far. -/
  result : Value := .undefined
  /-- The bytes that scripts may take up; zero stands for no limit. -/
  memoryLimit : Nat := 0
  /-- The response that the script is to look at. -/
  response : Option Response := none
  /-- The state of the random numbers. -/
  seed : UInt64 := 0x9E3779B97F4A7C15
  deriving Inhabited

inductive Intrinsic where
  | global
  | objectPrototype
  | functionPrototype
  | arrayPrototype
  | stringPrototype
  | numberPrototype
  | booleanPrototype
  | symbolPrototype
  | bigintPrototype
  | errorPrototype
  | evalErrorPrototype
  | rangeErrorPrototype
  | referenceErrorPrototype
  | syntaxErrorPrototype
  | typeErrorPrototype
  | uriErrorPrototype
  | internalErrorPrototype
  | aggregateErrorPrototype
  | iteratorPrototype
  | asyncIteratorPrototype
  | arrayIteratorPrototype
  | stringIteratorPrototype
  | mapIteratorPrototype
  | setIteratorPrototype
  | matchIteratorPrototype
  | generatorFunctionPrototype
  | generatorPrototype
  | asyncFunctionPrototype
  | asyncGeneratorFunctionPrototype
  | asyncGeneratorPrototype
  | mapPrototype
  | setPrototype
  | weakMapPrototype
  | weakSetPrototype
  | promisePrototype
  | regexpPrototype
  | datePrototype
  | bufferPrototype
  | typedPrototype
  | dataViewPrototype
  | int8Prototype
  | uint8Prototype
  | uint8ClampedPrototype
  | int16Prototype
  | uint16Prototype
  | int32Prototype
  | uint32Prototype
  | bigInt64Prototype
  | bigUint64Prototype
  | float16Prototype
  | float32Prototype
  | float64Prototype
  | adaptedPrototype
  | wrappedPrototype
  | weakRefPrototype
  | registryPrototype
  | sharedBufferPrototype
  | functionConstructor
  | errorConstructor
  | iteratorConstructor
  | arrayConstructor
  | regexpConstructor
  | promiseConstructor
  | typedConstructor
  | thrower
  | fulfiller
  | rejecter
  | evaluator
  | revoker
  | collector
  /-- The object through which scripts reach their host. -/
  | suite
  /-- The response as tests see it. -/
  | answer
  deriving Inhabited

namespace Intrinsic

/-- Every one of them, in the order of their places. -/
def all : List Intrinsic :=
  [.global, .objectPrototype, .functionPrototype, .arrayPrototype, .stringPrototype,
   .numberPrototype, .booleanPrototype, .symbolPrototype, .bigintPrototype, .errorPrototype,
   .evalErrorPrototype, .rangeErrorPrototype, .referenceErrorPrototype, .syntaxErrorPrototype,
   .typeErrorPrototype, .uriErrorPrototype, .internalErrorPrototype, .aggregateErrorPrototype,
   .iteratorPrototype, .asyncIteratorPrototype, .arrayIteratorPrototype,
   .stringIteratorPrototype, .mapIteratorPrototype, .setIteratorPrototype,
   .matchIteratorPrototype, .generatorFunctionPrototype, .generatorPrototype,
   .asyncFunctionPrototype, .asyncGeneratorFunctionPrototype, .asyncGeneratorPrototype,
   .mapPrototype, .setPrototype, .weakMapPrototype, .weakSetPrototype, .promisePrototype,
   .regexpPrototype, .datePrototype, .bufferPrototype, .typedPrototype, .dataViewPrototype,
   .int8Prototype, .uint8Prototype, .uint8ClampedPrototype, .int16Prototype, .uint16Prototype,
   .int32Prototype, .uint32Prototype, .bigInt64Prototype, .bigUint64Prototype, .float16Prototype,
   .float32Prototype, .float64Prototype, .adaptedPrototype, .wrappedPrototype, .weakRefPrototype,
   .registryPrototype, .sharedBufferPrototype, .functionConstructor, .errorConstructor, .iteratorConstructor,
   .arrayConstructor, .regexpConstructor,
   .promiseConstructor, .typedConstructor, .thrower, .fulfiller, .rejecter, .evaluator,
   .revoker, .collector, .suite, .answer]

def ref (i : Intrinsic) : Ref := i.ctorIdx

end Intrinsic

/-- Symbols that the language itself looks for. -/
inductive KnownSymbol where
  | iterator
  | asyncIterator
  | hasInstance
  | toPrimitive
  | toStringTag
  | species
  | isConcatSpreadable
  | unscopables
  | matches
  | matchAll
  | replace
  | search
  | split
  deriving DecidableEq

namespace KnownSymbol

def all : List KnownSymbol :=
  [.iterator, .asyncIterator, .hasInstance, .toPrimitive, .toStringTag, .species,
   .isConcatSpreadable, .unscopables, .matches, .matchAll, .replace, .search, .split]

def name : KnownSymbol → String
  | .iterator => "iterator"
  | .asyncIterator => "asyncIterator"
  | .hasInstance => "hasInstance"
  | .toPrimitive => "toPrimitive"
  | .toStringTag => "toStringTag"
  | .species => "species"
  | .isConcatSpreadable => "isConcatSpreadable"
  | .unscopables => "unscopables"
  | .matches => "match"
  | .matchAll => "matchAll"
  | .replace => "replace"
  | .search => "search"
  | .split => "split"

def key (s : KnownSymbol) : Key := .symbol s.ctorIdx

end KnownSymbol

end CollectionRunner.Script
