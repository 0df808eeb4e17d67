import CollectionRunner.Script.Library.Arrays

namespace CollectionRunner.Script.Library

open Exec

/-- Buffers that could be shared with others are a kind of their own. -/
def bufferName (shared : Bool) : String := if shared then "SharedArrayBuffer" else "ArrayBuffer"

def bufferPrototypeOf (shared : Bool) : Intrinsic :=
  if shared then .sharedBufferPrototype else .bufferPrototype

/-- A buffer of either kind. -/
def anyBuffer (v : Value) : Exec (Ref × Array UInt8) := do
  match v with
  | .object r =>
    match ← kindOf r with
    | .buffer bytes _ => return (r, bytes)
    | _ => typeError "ArrayBuffer object expected"
  | _ => typeError "ArrayBuffer object expected"

def thisBuffer (shared : Bool) (this : Value) : Exec (Array UInt8) := do
  match this with
  | .object r =>
    match ← kindOf r with
    | .buffer bytes s =>
      if s = shared then return bytes else typeError (bufferName shared ++ " object expected")
    | _ => typeError (bufferName shared ++ " object expected")
  | _ => typeError (bufferName shared ++ " object expected")

def newBuffer (prototype : Ref) (length : Nat) (shared : Bool) : Exec Ref := do
  if Nat.pow 2 31 ≤ length then rangeError "invalid array buffer length"
  if ← read fun s => s.memoryLimit != 0 && s.memoryLimit < length then outOfMemory
  newObject { prototype := some prototype, kind := .buffer (Array.replicate length 0) shared }

def bufferConstructorOf (shared : Bool) (own : List Entry) : Constructor :=
  { name := bufferName shared, length := 1, prototype := some (bufferPrototypeOf shared)
    call := needsNew
    construct := fun args newTarget => do
      let n ← toIndex (nth args 0)
      return .object (← newBuffer (← prototypeFor newTarget (bufferPrototypeOf shared)) n shared)
    own := own ++ [.symbolGetter .species "get [Symbol.species]" fun this _ => return this]
    methods := [
      .getter "byteLength" fun this _ => do return .ofNat (← thisBuffer shared this).size,
      .method "slice" 2 fun this args => do
        let bytes ← thisBuffer shared this
        let first ← toPlace (nth args 0) bytes.size 0
        let last ← toPlace (nth args 1) bytes.size bytes.size
        return .object (← newObject
          { prototype := some (bufferPrototypeOf shared).ref
            kind := .buffer (bytes.extract first last) shared }),
      .tag (bufferName shared)] }

def bufferConstructor : Constructor := bufferConstructorOf false
  [.method "isView" 1 fun _ args => do
    match nth args 0 with
    | .object r =>
      match ← kindOf r with
      | .typed .. | .dataView .. => return .bool true
      | _ => return .bool false
    | _ => return .bool false]

def sharedBufferConstructor : Constructor := bufferConstructorOf true []

/-- A typed array: its object, its elements' type, the buffer, where it begins there and its
length. -/
structure TypedView where
  self : Ref
  type : ElementType
  buffer : Ref
  offset : Nat
  length : Nat

def thisTyped (this : Value) : Exec TypedView := do
  match this with
  | .object r =>
    match ← kindOf r with
    | .typed t buffer offset length => return ⟨r, t, buffer, offset, length⟩
    | _ => typeError "not a TypedArray"
  | _ => typeError "not a TypedArray"

def typedPrototypes : List (ElementType × Intrinsic) :=
  [(.int8, .int8Prototype), (.uint8, .uint8Prototype), (.uint8Clamped, .uint8ClampedPrototype),
   (.int16, .int16Prototype), (.uint16, .uint16Prototype), (.int32, .int32Prototype),
   (.uint32, .uint32Prototype), (.bigInt64, .bigInt64Prototype), (.bigUint64, .bigUint64Prototype),
   (.float16, .float16Prototype), (.float32, .float32Prototype), (.float64, .float64Prototype)]

def prototypeOfType (t : ElementType) : Intrinsic :=
  ((typedPrototypes.find? (·.1 == t)).map (·.2)).getD .typedPrototype

/-- A typed array of its own bytes. -/
def newTyped (t : ElementType) (prototype : Ref) (length : Nat) : Exec Ref := do
  let buffer ← newBuffer Intrinsic.bufferPrototype.ref (length * t.width) false
  newObject { prototype := some prototype, kind := .typed t buffer 0 length }

/-- Sets the elements of a typed array from a place on. -/
def setElements (r : Ref) (first : Nat) (values : List Value) : Exec Unit :=
  forEach (fun (i, v) => setElement r (first + i) v) (values.mapIdx fun i v => (i, v))

def typedOf (t : ElementType) (prototype : Ref) (values : List Value) : Exec Value := do
  let r ← newTyped t prototype values.length
  setElements r 0 values
  return .object r

/-- The values that an object gives if it can be gone through, or else those of its elements. -/
def valuesOrElements (v : Value) : Exec (List Value) := do
  match ← method? v KnownSymbol.iterator.key with
  | some _ => valuesOf v
  | none => listOf (← toObject v)

def constructTyped (t : ElementType) (args : List Value) (newTarget : Value) : Exec Value := do
  match nth args 0 with
  | .object r =>
    match ← kindOf r with
    | .buffer bytes _ =>
      let offset ← toIndex (nth args 1)
      if offset % t.width != 0 || bytes.size < offset then rangeError "invalid offset"
      let length ←
        if (nth args 2).isUndefined then
          if (bytes.size - offset) % t.width != 0 then rangeError "invalid length"
          pure ((bytes.size - offset) / t.width)
        else toIndex (nth args 2)
      if bytes.size < offset + length * t.width then rangeError "invalid length"
      let p ← prototypeFor newTarget (prototypeOfType t)
      return .object (← newObject { prototype := some p, kind := .typed t r offset length })
    | .typed .. =>
      let p ← prototypeFor newTarget (prototypeOfType t)
      typedOf t p (← elementsOfTyped r)
    | _ =>
      let p ← prototypeFor newTarget (prototypeOfType t)
      typedOf t p (← valuesOrElements (.object r))
  | v =>
    let length ← toIndex v
    return .object (← newTyped t (← prototypeFor newTarget (prototypeOfType t)) length)
where
  elementsOfTyped (r : Ref) : Exec (List Value) := do
    let v ← thisTyped (.object r)
    mapEach (fun i => get r (.index i)) (List.range v.length) []

def valuesOfView (v : TypedView) : Exec (List Value) :=
  mapEach (fun i => get v.self (.index i)) (List.range v.length) []

/-- A typed array that a constructor makes. -/
def createTyped (maker : Value) (args : List Value) : Exec TypedView := do
  let v ← thisTyped (← construct maker args maker)
  match args with
  | [length] => if natFloat v.length < (← toInteger length) then typeError "TypedArray length is too small"
  | _ => pure ()
  return v

/-- A typed array for the results of a method. -/
def speciesTyped (v : TypedView) (args : List Value) : Exec TypedView := do
  match ← askedConstructor v.self with
  | none => thisTyped (← constructTyped v.type args .undefined)
  | some maker => createTyped maker args

def onTyped (f : TypedView → List Value → Exec Value) : Code := fun this args => do
  f (← thisTyped this) args

/-- A typed array of the same type with the same elements. -/
def copyTyped (v : TypedView) : Exec TypedView := do
  thisTyped (← typedOf v.type (prototypeOfType v.type).ref (← valuesOfView v))

/-- The order of elements: numbers by their size, minus zero before zero, and those that are none at
the end. -/
def elementOrder (a b : Value) : Ordering :=
  match a, b with
  | .big m, .big n => compare m n
  | .number x, .number y =>
    if x.isNaN || y.isNaN then compare x.isNaN.toNat y.isNaN.toNat
    else if x < y then .lt
    else if x > y then .gt
    else if x == 0 then compare (y.toBits >>> 63) (x.toBits >>> 63)
    else .eq
  | _, _ => .eq

/-- Sorts the elements of a typed array. -/
def sortTyped (v : TypedView) (f : Option Value) : Exec Unit := do
  let values ← valuesOfView v
  match f with
  | some _ => setElements v.self 0 (← sortValues f values)
  | none => setElements v.self 0 (values.mergeSort fun a b => (elementOrder a b).isLE)

/-- Methods of arrays that do the same for typed arrays. -/
def sharedMethods (names : List String) : List Entry :=
  names.filterMap fun name =>
    arrayMethods.findSome? fun
      | .method n length code =>
        if n = name then
          some (.method n length fun this args => do
            let _ ← thisTyped this
            code this args)
        else none
      | _ => none

def placeValues (v : TypedView) (args : List Value) : Exec Value := do
  let offset ← toInteger (nth args 1)
  if offset < 0 then rangeError "invalid array length"
  let r ← toObject (nth args 0)
  let offset := clampNat offset mostLength
  let values ←
    match ← kindOf r with
    | .typed .. => valuesOfView (← thisTyped (.object r))
    | _ => listOf r
  if v.length < offset + values.length then rangeError "invalid array length"
  setElements v.self offset values
  return .undefined

def mapTyped (v : TypedView) (args : List Value) : Exec Value := do
  let f ← callback (nth args 0)
  let made ← speciesTyped v [.ofNat v.length]
  forNumbers
    (fun i => do
      let x ← get v.self (.index i)
      set made.self (.ofNat i) (← call f (nth args 1) [x, .ofNat i, .object v.self]))
    0 v.length
  return .object made.self

def filterTyped (v : TypedView) (args : List Value) : Exec Value := do
  let f ← callback (nth args 0)
  let kept ← mapEach
    (fun i => do
      let x ← get v.self (.index i)
      if (← call f (nth args 1) [x, .ofNat i, .object v.self]).truth then return [x] else return [])
    (List.range v.length) []
  let kept := kept.flatten
  let made ← speciesTyped v [.ofNat kept.length]
  let _ ← invoke (.object made.self) "set" [← newArray kept]
  return .object made.self

def sliceTyped (v : TypedView) (args : List Value) : Exec Value := do
  let first ← toPlace (nth args 0) v.length 0
  let last ← toPlace (nth args 1) v.length v.length
  let made ← speciesTyped v [.ofNat (last - first)]
  forNumbers (fun i => do set made.self (.ofNat i) (← get v.self (.index (first + i)))) 0
    (last - first)
  return .object made.self

def typedMethods : List Entry := [
   .getter "length" (onTyped fun v _ => return .ofNat v.length)] ++
  sharedMethods ["at"] ++ [
   .method "with" 2 (onTyped fun v args => do
     let x ← toInteger (nth args 0)
     let i := if x < 0 then natFloat v.length + x else x
     let value ← toPrimitive .number (nth args 1)
     if i < 0 || natFloat v.length ≤ i then rangeError "invalid array index"
     let copy ← copyTyped v
     setElement copy.self (clampNat i v.length) value
     return .object copy.self),
   .getter "buffer" (onTyped fun v _ => return .object v.buffer),
   .getter "byteLength" (onTyped fun v _ => return .ofNat (v.length * v.type.width)),
   .getter "byteOffset" (onTyped fun v _ => return .ofNat v.offset),
   .method "set" 1 (onTyped placeValues)] ++
  sharedMethods ["values"] ++ [.symbolAlias .iterator "values"] ++
  sharedMethods ["keys", "entries"] ++ [
   .symbolGetter .toStringTag "get [Symbol.toStringTag]" fun this _ => do
     match this with
     | .object r =>
       match ← kindOf r with
       | .typed t .. => return .ofString t.name
       | _ => return .undefined
     | _ => return .undefined] ++
  sharedMethods ["copyWithin", "every", "some", "forEach"] ++ [
   .method "map" 1 (onTyped mapTyped), .method "filter" 1 (onTyped filterTyped)] ++
  sharedMethods ["reduce", "reduceRight"] ++ [
   .method "fill" 1 (onTyped fun v args => do
     let x ← elementValue v.type (nth args 0)
     let first ← toPlace (nth args 1) v.length 0
     let last ← toPlace (nth args 2) v.length v.length
     forNumbers (fun i => setElement v.self i x) first (last - first)
     return .object v.self)] ++
  sharedMethods ["find", "findIndex", "findLast", "findLastIndex", "reverse"] ++ [
   .method "toReversed" 0 (onTyped fun v _ => do
     typedOf v.type (prototypeOfType v.type).ref (← valuesOfView v).reverse),
   .method "slice" 2 (onTyped sliceTyped),
   .method "subarray" 2 (onTyped fun v args => do
     let first ← toPlace (nth args 0) v.length 0
     let last ← toPlace (nth args 1) v.length v.length
     let made ← speciesTyped v [.object v.buffer, .ofNat (v.offset + first * v.type.width),
       .ofNat (last - first)]
     return .object made.self),
   .method "sort" 1 (onTyped fun v args => do
     sortTyped v (← comparatorOf (nth args 0))
     return .object v.self),
   .method "toSorted" 1 (onTyped fun v args => do
     let f ← comparatorOf (nth args 0)
     let copy ← copyTyped v
     sortTyped copy f
     return .object copy.self)] ++
  sharedMethods ["join", "toLocaleString", "indexOf", "lastIndexOf", "includes"] ++ [
   .borrowed .arrayPrototype "toString"]

def typedConstructor : Constructor :=
  { name := "TypedArray", length := 0, prototype := some .typedPrototype
    call := fun _ => typeError "cannot be called"
    construct := fun _ _ => typeError "cannot be called"
    isGlobal := false
    place := some .typedConstructor
    own := [
      .method "from" 1 fun this args => do
        let f ← comparatorOf (nth args 1)
        let values ← valuesOrElements (nth args 0)
        let made ← createTyped this [.ofNat values.length]
        forEach
          (fun (i, v) => do
            let v ←
              match f with
              | some f => call f (nth args 2) [v, .ofNat i]
              | none => pure v
            set made.self (.ofNat i) v)
          (values.mapIdx fun i v => (i, v))
        return .object made.self,
      .method "of" 0 fun this args => do
        let made ← createTyped this [.ofNat args.length]
        forEach (fun (i, v) => set made.self (.ofNat i) v) (args.mapIdx fun i v => (i, v))
        return .object made.self,
      .symbolGetter .species "get [Symbol.species]" fun this _ => return this]
    methods := typedMethods }

def typedConstructors : List Constructor :=
  typedPrototypes.map fun (t, prototype) =>
    { name := t.name, length := 3, prototype := some prototype, parent := some .typedConstructor
      call := needsNew
      construct := constructTyped t
      own := [.constant "BYTES_PER_ELEMENT" (.ofNat t.width)]
      methods := [.constant "BYTES_PER_ELEMENT" (.ofNat t.width)] }

/-- The buffer of a view, where the view begins there, and its length. -/
def thisView (this : Value) : Exec (Ref × Nat × Nat) := do
  match this with
  | .object r =>
    match ← kindOf r with
    | .dataView buffer offset length => return (buffer, offset, length)
    | _ => typeError "DataView object expected"
  | _ => typeError "DataView object expected"

def constructView (args : List Value) (newTarget : Value) : Exec Value := do
  let (buffer, bytes) ← anyBuffer (nth args 0)
  let offset ← toIndex (nth args 1)
  if bytes.size < offset then rangeError "invalid byteOffset"
  let length ←
    if (nth args 2).isUndefined then pure (bytes.size - offset)
    else do
      let length ← toIndex (nth args 2)
      if bytes.size - offset < length then rangeError "invalid byteLength"
      pure length
  let p ← prototypeFor newTarget .dataViewPrototype
  return .object (← newObject { prototype := some p, kind := .dataView buffer offset length })

/-- Some bytes in their order, or in the reverse one. -/
def orderedBytes (lowFirst : Bool) (bytes : Array UInt8) : Array UInt8 :=
  if lowFirst then bytes else bytes.reverse

def viewReader (t : ElementType) (name : String) : Entry :=
  .method ("get" ++ name) 1 fun this args => do
    let (buffer, offset, length) ← thisView this
    let i ← toIndex (nth args 0)
    if length < i + t.width then rangeError "out of bound"
    let (_, bytes) ← anyBuffer (.object buffer)
    let found := bytes.extract (offset + i) (offset + i + t.width)
    return t.read (orderedBytes (nth args 1).truth found) 0

def viewWriter (t : ElementType) (name : String) : Entry :=
  .method ("set" ++ name) 2 fun this args => do
    let (buffer, offset, length) ← thisView this
    let i ← toIndex (nth args 0)
    let v ← elementValue t (nth args 1)
    if length < i + t.width then rangeError "out of bound"
    let given := orderedBytes (nth args 2).truth (t.write (Array.replicate t.width 0) 0 v)
    modify (·.modifyObj buffer fun o =>
      match o with
      | { kind := .buffer bytes shared, .. } =>
        { o with
          kind := .buffer (bytes.extract 0 (offset + i) ++ given ++
            bytes.extract (offset + i + t.width) bytes.size) shared }
      | _ => o)
    return .undefined

/-- The types of single elements, with the names that methods have of them. -/
def viewTypes : List (ElementType × String) :=
  [(.int8, "Int8"), (.uint8, "Uint8"), (.int16, "Int16"), (.uint16, "Uint16"), (.int32, "Int32"),
   (.uint32, "Uint32"), (.bigInt64, "BigInt64"), (.bigUint64, "BigUint64"),
   (.float16, "Float16"), (.float32, "Float32"), (.float64, "Float64")]

def viewConstructor : Constructor :=
  { name := "DataView", length := 1, prototype := some .dataViewPrototype
    call := needsNew
    construct := constructView
    methods := [
      .getter "buffer" fun this _ => do return .object (← thisView this).1,
      .getter "byteLength" fun this _ => do return .ofNat (← thisView this).2.2,
      .getter "byteOffset" fun this _ => do return .ofNat (← thisView this).2.1] ++
      viewTypes.map (fun (t, name) => viewReader t name) ++
      viewTypes.map (fun (t, name) => viewWriter t name) ++ [.tag "DataView"] }

end CollectionRunner.Script.Library
