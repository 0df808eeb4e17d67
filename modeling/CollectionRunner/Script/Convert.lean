import CollectionRunner.Script.Lookup

namespace CollectionRunner.Script

namespace Value

def typeName (s : Store) : Value → String
  | .undefined => "undefined"
  | .null => "object"
  | .bool _ => "boolean"
  | .number _ => "number"
  | .big _ => "bigint"
  | .text _ => "string"
  | .symbol _ => "symbol"
  | .object r => if s.isCallable (.object r) then "function" else "object"

end Value

/-- What an object is to be converted to if it can choose. -/
inductive Hint where
  | default
  | number
  | string
  deriving DecidableEq

def Hint.name : Hint → String
  | .default => "default"
  | .number => "number"
  | .string => "string"

namespace Exec

/-- Tries methods in their order until one gives something that is no object. -/
def firstPrimitive (v : Value) : List String → Exec Value
  | [] => typeError "toPrimitive"
  | name :: rest => do
    let f ← getNamedOf v name
    if ← isCallable f then
      match ← call f v [] with
      | .object _ => firstPrimitive v rest
      | result => return result
    else firstPrimitive v rest

def toPrimitive (hint : Hint) (v : Value) : Exec Value :=
  match v with
  | .object _ => do
    match ← method? v KnownSymbol.toPrimitive.key with
    | some f =>
      match ← call f v [.ofString hint.name] with
      | .object _ => typeError "toPrimitive"
      | result => return result
    | none =>
      firstPrimitive v
        (if hint = .string then ["toString", "valueOf"] else ["valueOf", "toString"])
  | _ => return v

/-- The text of a value that is no object. -/
def primitiveText : Value → Exec Units
  | .undefined => return .ofString "undefined"
  | .null => return .ofString "null"
  | .bool b => return .ofString (if b then "true" else "false")
  | .number x => return .ofString (numberText x)
  | .big n => return .ofString (toString n)
  | .text u => return u
  | .symbol _ => typeError "cannot convert symbol to string"
  | .object _ => typeError "toPrimitive"

def toUnits (v : Value) : Exec Units :=
  match v with
  | .object _ => do primitiveText (← toPrimitive .string v)
  | _ => primitiveText v

def primitiveNumber : Value → Exec Float
  | .undefined => return nan
  | .null => return 0
  | .bool b => return if b then 1 else 0
  | .number x => return x
  | .big _ => typeError "cannot convert BigInt to number"
  | .text u => return textNumber u
  | .symbol _ => typeError "cannot convert symbol to number"
  | .object _ => typeError "toPrimitive"

def toNumber (v : Value) : Exec Float :=
  match v with
  | .object _ => do primitiveNumber (← toPrimitive .number v)
  | _ => primitiveNumber v

/-- A number or a big integer. -/
def toNumeric (v : Value) : Exec Value := do
  match ← toPrimitive .number v with
  | .big n => return .big n
  | p => return .number (← primitiveNumber p)

def toBig (v : Value) : Exec Int := do
  match ← toPrimitive .number v with
  | .big n => return n
  | .bool b => return if b then 1 else 0
  | .text u =>
    match textInteger? u with
    | some n => return n
    | none => syntaxError "invalid BigInt literal"
  | _ => typeError "cannot convert to BigInt"

def toKey (v : Value) : Exec Key := do
  match v with
  | .number x =>
    match arrayIndex? x with
    | some i => return .index i
    | none => return .ofString (numberText x)
  | .text u => return .ofUnits u
  | .symbol id => return .symbol id
  | .object _ =>
    match ← toPrimitive .string v with
    | .symbol id => return .symbol id
    | p => return .ofUnits (← primitiveText p)
  | _ => return .ofUnits (← primitiveText v)

/-- The object that a value is or is put into. -/
def toObject (v : Value) : Exec Ref :=
  match v with
  | .object r => return r
  | .undefined | .null => typeError "Cannot convert undefined or null to object"
  | .text u =>
    newObject
      { prototype := some Intrinsic.stringPrototype.ref, kind := .boxed v,
        properties := #[(lengthKey, .fixed (.ofNat u.size))] }
  | _ => newObject { prototype := some (v.family.getD .objectPrototype).ref, kind := .boxed v }

/-- A whole number or an infinity. -/
def toInteger (v : Value) : Exec Float := do
  let x ← toNumber v
  if x.isNaN then return 0
  if x < 0 then return -(-x).floor else return x.floor

/-- The greatest length of an object. -/
def mostLength : Nat := Nat.pow 2 53 - 1

/-- The whole number that a float is, between zero and a bound. -/
def clampNat (x : Float) (bound : Nat) : Nat :=
  if x ≤ 0 then 0
  else if x ≥ natFloat bound then bound
  else (truncated x).toNat

def toLength (v : Value) : Exec Nat := return clampNat (← toInteger v) mostLength

def lengthOf (r : Ref) : Exec Nat := do
  match ← inspect r Kind.length? with
  | some (length, _) => return length
  | none => toLength (← get r lengthKey)

/-- A place in a row: a negative number counts from the end, and none given means the fallback. -/
def toPlace (v : Value) (length fallback : Nat) : Exec Nat := do
  if v.isUndefined then return fallback
  let x ← toInteger v
  if x < 0 then return clampNat (natFloat length + x) length
  return clampNat x length

def toText (v : Value) : Exec String := return (← toUnits v).lossyString

end Exec

end CollectionRunner.Script
