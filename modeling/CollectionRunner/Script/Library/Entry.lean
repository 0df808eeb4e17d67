import CollectionRunner.Script.Interpreter

namespace CollectionRunner.Script.Library

/-- The code of a function: what it does with the value it is called on and its arguments. -/
abbrev Code := Value → List Value → Exec Value

/-- One property of a provided object. -/
inductive Entry where
  | method (name : String) (length : Nat) (code : Code)
  | symbolMethod (s : KnownSymbol) (name : String) (length : Nat) (code : Code)
  | getter (name : String) (code : Code)
  | symbolGetter (s : KnownSymbol) (name : String) (code : Code)
  | accessor (name : String) (read write : Code)
  | symbolAccessor (s : KnownSymbol) (name : String) (read write : Code)
  | constant (name : String) (v : Value)
  /-- A value that may be changed. -/
  | field (name : String) (v : Value)
  /-- A value that stays, unless its property is defined anew. -/
  | told (name : String) (v : Value)
  /-- A property that must not be used. -/
  | forbidden (name : String)
  | tag (name : String)
  /-- A property of another object, which is there already. -/
  | borrowed (owner : Intrinsic) (name : String)
  /-- Another name of a method of the same object. -/
  | alias (name existing : String)
  | symbolAlias (s : KnownSymbol) (existing : String)

/-- A function that `new` is used with, its prototype and the properties of both. -/
structure Constructor where
  name : String
  length : Nat
  prototype : Option Intrinsic
  /-- The place of the function itself, if others look for it there. -/
  place : Option Intrinsic := none
  /-- The function that it inherits from, if that is none of the usual ones. -/
  parent : Option Intrinsic := none
  call : List Value → Exec Value
  construct : List Value → Value → Exec Value
  own : List Entry := []
  methods : List Entry := []
  /-- The prototype tells its constructor before anything else. -/
  constructorFirst : Bool := false
  /-- The prototype's property that tells the constructor. -/
  constructorProperty : Value → Property := .silent
  isGlobal : Bool := true

/-- An object that only holds functions. -/
structure Holder where
  name : String
  entries : List Entry

def nth (args : List Value) (i : Nat) : Value := args.getD i .undefined

open Exec

/-- The complaint of a constructor that is called like a function. -/
def needsNew (_ : List Value) : Exec Value := typeError "must be called with new"

def requiresNew (_ : List Value) : Exec Value := typeError "constructor requires 'new'"

def notConstructor (_ : List Value) (_ : Value) : Exec Value := typeError "not a constructor"

/-- A length or an offset, which must not be negative. -/
def toIndex (v : Value) : Exec Nat := do
  let x ← toInteger v
  if x < 0 || 9007199254740991 < x then rangeError "invalid array index"
  return clampNat x mostLength

/-- The constructor that an object asks for, if it does. -/
def askedConstructor (r : Ref) : Exec (Option Value) := do
  match ← getNamed r "constructor" with
  | .undefined => return none
  | .object c =>
    let species ← get c KnownSymbol.species.key
    if species.isNullish then return none
    if ! (← isConstructor species) then typeError "not a constructor"
    return some species
  | _ => typeError "not an object"

/-- The constructor that an object asks for, or else the one given. -/
def constructorFor (r : Ref) (fallback : Intrinsic) : Exec Value := do
  return (← askedConstructor r).getD (.object fallback.ref)

/-- A callback that an argument has to be. -/
def callback (v : Value) : Exec Value := do
  if ← isCallable v then return v else typeError "not a function"

/-- A method of the value itself, as an object. -/
def onObject (f : Ref → List Value → Exec Value) : Code := fun this args => do
  f (← toObject this) args

/-- A method of an object only. -/
def onRef (f : Ref → List Value → Exec Value) : Code := fun this args => do
  match this with
  | .object r => f r args
  | _ => typeError "not an object"

/-- A method of a value's text. -/
def onText (f : Units → List Value → Exec Value) : Code := fun this args => do
  if this.isNullish then typeError "null or undefined are forbidden"
  f (← toUnits this) args

end CollectionRunner.Script.Library
