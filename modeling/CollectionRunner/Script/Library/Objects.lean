import CollectionRunner.Script.Library.Entry

namespace CollectionRunner.Script.Library

open Exec

def preventsNothing {α : Type} : Exec α :=
  typeError "proxy preventExtensions handler returned false"

def holdExtensions (r : Ref) : Exec Unit := do
  if (← preventExtensions r).isSome then preventsNothing

/-- Makes every property of an object stay as it is, in its value too when it is frozen. -/
def harden (r : Ref) (frozen : Bool) : Exec Unit := do
  holdExtensions r
  forEach
    (fun k => do
      let writable ← show Exec Bool from do
        if ! frozen then return false
        match ← getOwn r k with
        | some { slot := .data _ w, .. } => return w
        | _ => return false
      let d : Descriptor := { configurable := some false }
      ensure (← define r k (if writable then { d with writable := some false } else d)))
    (← keysOf r)

def isHardened (r : Ref) (frozen : Bool) : Exec Bool := do
  let loose ← iterate (← keysOf r) fun
    | [] => return .ok false
    | k :: rest => do
      match ← getOwn r k with
      | some p =>
        let writable := match p.slot with
          | .data _ w => w
          | _ => false
        if p.configurable || (frozen && writable) then return .ok true
        return .error rest
      | none => return .error rest
  if loose then return false
  return ! (← isExtensible r)

def keyValues (keys : List Key) : Exec Value := newArray (keys.map .ofKey)

def pairValue (k v : Value) : Exec Value := newArray [k, v]

def defineAll (r : Ref) (v : Value) : Exec Unit := do
  let descriptions ← toObject v
  forProperties (.object descriptions) [] fun k d => do ensure (← define r k (← toDescriptor d))

def prototypeValue (r : Ref) : Exec Value := return ((← prototypeOf r).map Value.object).getD .null

/-- The text that objects convert to. -/
def objectText (this : Value) (_ : List Value) : Exec Value := do
  let tagged (tag : String) : Units := .ofString ("[object " ++ tag ++ "]")
  match this with
  | .undefined => return .text (tagged "Undefined")
  | .null => return .text (tagged "Null")
  | _ =>
    let r ← toObject this
    let base ←
      match ← kindOf r with
      | .array .. => pure "Array"
      | .proxy .. =>
        if ← isArray this then pure "Array"
        else pure (if ← isCallable this then "Function" else "Object")
      | .function .. | .native .. | .bound .. => pure "Function"
      | .error => pure "Error"
      | .arguments _ => pure "Arguments"
      | .boxed (.bool _) => pure "Boolean"
      | .boxed (.number _) => pure "Number"
      | .boxed (.text _) => pure "String"
      | .date _ => pure "Date"
      | .regexp .. => pure "RegExp"
      | _ => pure "Object"
    match ← get r KnownSymbol.toStringTag.key with
    | .text u => return .text (.ofString "[object " ++ u ++ .ofString "]")
    | _ => return .text (tagged base)

def setPrototypeCode (this : Value) (p : Value) : Exec Unit := do
  match this, p with
  | .object r, .object q => ensure (← setPrototype r (some q))
  | .object r, .null => ensure (← setPrototype r none)
  | _, _ => return ()

/-- Puts values into groups by what a function says of each; a group is known by the key made of
that. -/
def groupValues {κ : Type} (items f : Value) (keyOf : Value → Exec κ) (same : κ → κ → Bool) :
    Exec (List (κ × List Value)) := do
  let f ← callback f
  let i ← iterate? items
  let groups ← iterate (0, (#[] : Array (κ × List Value))) fun (n, groups) => do
    match ← nextValue i with
    | none => return .ok groups
    | some v =>
      let told ← recover (do keyOf (← call f .undefined [v, .ofNat n])) (closeAfter i)
      match groups.findIdx? fun (k, _) => same k told with
      | some g => return .error (n + 1, groups.modify g fun (k, vs) => (k, v :: vs))
      | none => return .error (n + 1, groups.push (told, [v]))
  return groups.toList.map fun (k, vs) => (k, vs.reverse)

/-- Something of each enumerable property of a value, told apart by their names. -/
def mapProperties (v : Value) (f : Ref → Key → Exec Value) : Exec Value := do
  let r ← toObject v
  let keys := (← keysOf r).filter (! ·.isSymbol)
  let listed ← mapEach
    (fun k => do
      match ← getOwn r k with
      | some p => if p.enumerable then return [← f r k] else return []
      | none => return [])
    keys []
  newArray listed.flatten

/-- One side of the accessor that an object has under a name, itself or from its prototypes. -/
def lookupAccessor (side : Value × Value → Value) : Code := onObject fun r args => do
  let k ← toKey (nth args 0)
  iterate r fun r => do
    match ← getOwn r k with
    | some { slot := .accessor f g, .. } => return .ok (side (f, g))
    | some _ => return .ok .undefined
    | none =>
      match ← prototypeOf r with
      | some p => return .error p
      | none => return .ok .undefined

def objectConstructor : Constructor :=
  { name := "Object", length := 1, prototype := some .objectPrototype
    call := fun args => do
      if (nth args 0).isNullish then return .object (← emptyObject)
      return .object (← toObject (nth args 0))
    construct := fun args newTarget => do
      let self ← read fun s => (s.calls.head?.bind (·.function)).map Value.object
      if (self.map (·.same newTarget)).getD true then
        if (nth args 0).isNullish then return .object (← emptyObject)
        return .object (← toObject (nth args 0))
      let p ← prototypeFor newTarget .objectPrototype
      return .object (← newObject { prototype := some p })
    own := [
      .method "create" 2 fun _ args => do
        let p ← match nth args 0 with
          | .object r => pure (some r)
          | .null => pure none
          | _ => typeError "object prototype may only be an Object or null"
        let r ← newObject { prototype := p }
        if ! (nth args 1).isUndefined then defineAll r (nth args 1)
        return .object r,
      .method "getPrototypeOf" 1 fun _ args => do
        if (nth args 0).isNullish then typeError "not an object"
        prototypeValue (← toObject (nth args 0)),
      .method "setPrototypeOf" 2 fun _ args => do
        if (nth args 0).isNullish then typeError "not an object"
        match nth args 1 with
        | .object _ | .null => setPrototypeCode (nth args 0) (nth args 1)
        | _ => typeError "not an object"
        return nth args 0,
      .method "defineProperty" 3 fun _ args => do
        match nth args 0 with
        | .object r =>
          let k ← toKey (nth args 1)
          ensure (← define r k (← toDescriptor (nth args 2)))
          return .object r
        | _ => typeError "not an object",
      .method "defineProperties" 2 fun _ args => do
        match nth args 0 with
        | .object r =>
          defineAll r (nth args 1)
          return .object r
        | _ => typeError "not an object",
      .method "getOwnPropertyNames" 1 fun _ args => do
        keyValues ((← keysOf (← toObject (nth args 0))).filter (! ·.isSymbol)),
      .method "getOwnPropertySymbols" 1 fun _ args => do
        keyValues ((← keysOf (← toObject (nth args 0))).filter (·.isSymbol)),
      .method "groupBy" 2 fun _ args => do
        let groups ← groupValues (nth args 0) (nth args 1) toKey (· == ·)
        let r ← newObject {}
        forEach (fun (k, vs) => do defineValue r k (← newArray vs)) groups
        return .object r,
      .method "keys" 1 fun _ args => mapProperties (nth args 0) fun _ k => return .ofKey k,
      .method "values" 1 fun _ args => mapProperties (nth args 0) get,
      .method "entries" 1 fun _ args =>
        mapProperties (nth args 0) fun r k => do pairValue (.ofKey k) (← get r k),
      .method "isExtensible" 1 fun _ args => do
        match nth args 0 with
        | .object r => return .bool (← isExtensible r)
        | _ => return .bool false,
      .method "preventExtensions" 1 fun _ args => do
        match nth args 0 with
        | .object r => holdExtensions r
        | _ => pure ()
        return nth args 0,
      .method "getOwnPropertyDescriptor" 2 fun _ args => do
        let r ← toObject (nth args 0)
        match ← getOwn r (← toKey (nth args 1)) with
        | some p => describeProperty p
        | none => return .undefined,
      .method "getOwnPropertyDescriptors" 1 fun _ args => do
        let r ← toObject (nth args 0)
        let out ← emptyObject
        forEach
          (fun k => do
            match ← getOwn r k with
            | some p => defineValue out k (← describeProperty p)
            | none => return ())
          (← keysOf r)
        return .object out,
      .method "is" 2 fun _ args => return .bool ((nth args 0).same (nth args 1)),
      .method "assign" 2 fun _ args => do
        let target ← toObject (nth args 0)
        forEach (fun source => forProperties source [] (set target)) (args.drop 1)
        return .object target,
      .method "seal" 1 fun _ args => do
        match nth args 0 with
        | .object r => harden r false
        | _ => pure ()
        return nth args 0,
      .method "freeze" 1 fun _ args => do
        match nth args 0 with
        | .object r => harden r true
        | _ => pure ()
        return nth args 0,
      .method "isSealed" 1 fun _ args => do
        match nth args 0 with
        | .object r => return .bool (← isHardened r false)
        | _ => return .bool true,
      .method "isFrozen" 1 fun _ args => do
        match nth args 0 with
        | .object r => return .bool (← isHardened r true)
        | _ => return .bool true,
      .method "fromEntries" 1 fun _ args => do
        let r ← emptyObject
        forValues (nth args 0) fun v => do
          match v with
          | .object e =>
            let k ← get e (.index 0)
            let v ← get e (.index 1)
            defineValue r (← toKey k) v
          | _ => typeError "not an object"
        return .object r,
      .method "hasOwn" 2 fun _ args => do
        let r ← toObject (nth args 0)
        return .bool (← getOwn r (← toKey (nth args 1))).isSome]
    methods := [
      .method "toString" 0 objectText,
      .method "toLocaleString" 0 fun this _ => invoke this "toString" [],
      .method "valueOf" 0 (onObject fun r _ => return .object r),
      .method "hasOwnProperty" 1 fun this args => do
        let k ← toKey (nth args 0)
        return .bool (← getOwn (← toObject this) k).isSome,
      .method "isPrototypeOf" 1 fun this args => do
        match nth args 0 with
        | .object r =>
          let p ← toObject this
          return .bool (← hasInstance.along proxyDepth p r)
        | _ => return .bool false,
      .method "propertyIsEnumerable" 1 fun this args => do
        let k ← toKey (nth args 0)
        match ← getOwn (← toObject this) k with
        | some p => return .bool p.enumerable
        | none => return .bool false,
      .accessor "__proto__"
        (onObject fun r _ => prototypeValue r)
        (fun this args => do
          if this.isNullish then typeError "not an object"
          setPrototypeCode this (nth args 0)
          return .undefined),
      .method "__defineGetter__" 2 (onObject fun r args => do
        let f ← callback (nth args 1)
        let k ← toKey (nth args 0)
        ensure (← define r k
          { read := some f, enumerable := some true, configurable := some true })
        return .undefined),
      .method "__defineSetter__" 2 (onObject fun r args => do
        let f ← callback (nth args 1)
        let k ← toKey (nth args 0)
        ensure (← define r k
          { write := some f, enumerable := some true, configurable := some true })
        return .undefined),
      .method "__lookupGetter__" 1 (lookupAccessor (·.1)),
      .method "__lookupSetter__" 1 (lookupAccessor (·.2))] }

def reflectTarget (args : List Value) : Exec Ref := do
  match nth args 0 with
  | .object r => return r
  | _ => typeError "not an object"

/-- The arguments that an object like an array holds. -/
def argumentList (v : Value) : Exec (List Value) := do
  match v with
  | .object r => listOf r
  | _ => typeError "not a object"

def reflect : Holder :=
  { name := "Reflect"
    entries := [
      .method "apply" 3 fun _ args => do
        let f ← callback (nth args 0)
        call f (nth args 1) (← argumentList (nth args 2)),
      .method "construct" 2 fun _ args => do
        let newTarget := if args.length < 3 then nth args 0 else nth args 2
        if 3 ≤ args.length && ! (← isConstructor newTarget) then typeError "not a constructor"
        construct (nth args 0) (← argumentList (nth args 1)) newTarget,
      .method "defineProperty" 3 fun _ args => do
        let r ← reflectTarget args
        let k ← toKey (nth args 1)
        return .bool (← define r k (← toDescriptor (nth args 2))).isNone,
      .method "deleteProperty" 2 fun _ args => do
        let r ← reflectTarget args
        return .bool (← deleteOwn r (← toKey (nth args 1))).isNone,
      .method "get" 2 fun _ args => do
        let r ← reflectTarget args
        let k ← toKey (nth args 1)
        getFrom r k (if args.length < 3 then .object r else nth args 2),
      .method "getOwnPropertyDescriptor" 2 fun _ args => do
        let r ← reflectTarget args
        match ← getOwn r (← toKey (nth args 1)) with
        | some p => describeProperty p
        | none => return .undefined,
      .method "getPrototypeOf" 1 fun _ args => do prototypeValue (← reflectTarget args),
      .method "has" 2 fun _ args => do
        let r ← reflectTarget args
        return .bool (← has r (← toKey (nth args 1))),
      .method "isExtensible" 1 fun _ args => do
        return .bool (← isExtensible (← reflectTarget args)),
      .method "ownKeys" 1 fun _ args => do keyValues (← keysOf (← reflectTarget args)),
      .method "preventExtensions" 1 fun _ args => do
        return .bool (← preventExtensions (← reflectTarget args)).isNone,
      .method "set" 3 fun _ args => do
        let r ← reflectTarget args
        let k ← toKey (nth args 1)
        let receiver := if args.length < 4 then .object r else nth args 3
        return .bool (← setFrom r k (nth args 2) receiver).isNone,
      .method "setPrototypeOf" 2 fun _ args => do
        let r ← reflectTarget args
        match nth args 1 with
        | .object p => return .bool (← setPrototype r (some p)).isNone
        | .null => return .bool (← setPrototype r none).isNone
        | _ => typeError "not an object",
      .tag "Reflect"] }

def newProxy (target handler : Value) : Exec Ref := do
  match target, handler with
  | .object t, .object h =>
    newObject
      { kind := .proxy (some t) (some h) (← isCallable target) (← isConstructor target) }
  | _, _ => typeError "not an object"

/-- Takes a proxy's target and handler away. -/
def revoke : Code := fun this _ => do
  match this with
  | .object r =>
    modify (·.modifyObj r fun o =>
      match o.kind with
      | .proxy _ _ callable constructible =>
        { o with kind := .proxy none none callable constructible }
      | _ => o)
    return .undefined
  | _ => return .undefined

/-- A function without a name that acts on an object. -/
def actingOn (f : Intrinsic) (r : Ref) (length : Nat) : Exec Value := do
  return .object (← newObject
    { prototype := some Intrinsic.functionPrototype.ref
      kind := .bound f.ref (.object r) []
      properties := functionProperties length #[] })

def proxyConstructor : Constructor :=
  { name := "Proxy", length := 2, prototype := none
    call := needsNew
    construct := fun args _ => do return .object (← newProxy (nth args 0) (nth args 1))
    own := [
      .method "revocable" 2 fun _ args => do
        let p ← newProxy (nth args 0) (nth args 1)
        let revoke ← actingOn .revoker p 0
        let r ← emptyObject
        defineValue r (.ofString "proxy") (.object p)
        defineValue r (.ofString "revoke") revoke
        return .object r] }

end CollectionRunner.Script.Library
