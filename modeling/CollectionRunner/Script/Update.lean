import CollectionRunner.Script.Convert
import CollectionRunner.Script.Memory

namespace CollectionRunner.Script

/-- What is wrong with an operation, if anything. -/
abbrev Refusal := Option String

/-- A description of a property, of which parts may be missing. -/
structure Descriptor where
  value : Option Value := none
  writable : Option Bool := none
  read : Option Value := none
  write : Option Value := none
  enumerable : Option Bool := none
  configurable : Option Bool := none
  deriving Inhabited

namespace Descriptor

def isAccessor (d : Descriptor) : Bool := d.read.isSome || d.write.isSome

def isData (d : Descriptor) : Bool := d.value.isSome || d.writable.isSome

/-- The property that the description is by itself. -/
def property (d : Descriptor) : Property :=
  { slot :=
      if d.isAccessor then .accessor (d.read.getD .undefined) (d.write.getD .undefined)
      else .data (d.value.getD .undefined) (d.writable.getD false)
    enumerable := d.enumerable.getD false
    configurable := d.configurable.getD false }

def ofProperty (p : Property) : Descriptor :=
  let d : Descriptor := { enumerable := some p.enumerable, configurable := some p.configurable }
  match p.slot with
  | .data v w => { d with value := some v, writable := some w }
  | .accessor r w => { d with read := some r, write := some w }

/-- A property like those that an assignment adds. -/
def plain (v : Value) : Descriptor := ofProperty (.plain v)

end Descriptor

/-- The property that another one becomes by a description, unless it may not be changed so. -/
def Property.change (p : Property) (d : Descriptor) : Option Property :=
  let changed : Property :=
    { slot :=
        match p.slot with
        | .data v w =>
          if d.isAccessor then .accessor (d.read.getD .undefined) (d.write.getD .undefined)
          else .data (d.value.getD v) (d.writable.getD w)
        | .accessor r w =>
          if d.isData then .data (d.value.getD .undefined) (d.writable.getD false)
          else .accessor (d.read.getD r) (d.write.getD w)
      enumerable := d.enumerable.getD p.enumerable
      configurable := d.configurable.getD p.configurable }
  if p.configurable then some changed
  else if changed.configurable || changed.enumerable != p.enumerable then none
  else
    match p.slot, changed.slot with
    | .data v w, .data v' w' => if w || (! w' && v.same v') then some changed else none
    | .accessor r w, .accessor r' w' => if r.same r' && w.same w' then some changed else none
    | _, _ => none

/-- Whether a property could be changed by a description, as far as its value does not count. -/
def Property.admits (p : Property) (d : Descriptor) : Bool :=
  p.configurable ||
    (d.configurable != some true && (d.enumerable.getD p.enumerable == p.enumerable) &&
      (! (d.isAccessor || d.isData) ||
        match p.slot with
        | .data _ w => ! d.isAccessor && (w || d.writable != some true)
        | .accessor .. => d.isAccessor))

def notExtensible : Refusal := some "object is not extensible"

namespace Store

/-- The variable that stands for an argument, by its scope and its place. -/
def twin? (s : Store) (r : Ref) (k : Key) : Option (Nat × Nat) :=
  match k, (s.obj r).kind with
  | .index i, .arguments twins => (twins.find? (·.1 == i)).map (·.2)
  | _, _ => none

/-- Changes the variable that stands for an argument. -/
def modifyTwin (r : Ref) (k : Key) (f : Variable → Variable) (s : Store) : Store :=
  match s.twin? r k with
  | some (scope, i) =>
    { s with scopes := s.scopes.modify scope fun x => { x with vars := x.vars.modify i f } }
  | none => s

/-- Gives a value to the variable that stands for an argument. -/
def assignTwin (r : Ref) (k : Key) (v : Value) (s : Store) : Store :=
  s.modifyTwin r k fun x => { x with value := some v }

/-- Parts an argument from the variable that stands for it. -/
def partTwin (r : Ref) (k : Key) (s : Store) : Store :=
  match k, s.twin? r k with
  | .index i, some _ =>
    (s.modifyTwin r k fun x => { x with twin := none }).modifyObj r fun o =>
      match o.kind with
      | .arguments twins => { o with kind := .arguments (twins.filter (·.1 != i)) }
      | _ => o
  | _, _ => s

/-- Gives a new value to an own property that is writable. -/
def assignOwn (r : Ref) (k : Key) (v : Value) (s : Store) : Store :=
  (s.assignTwin r k v).modifyObj r fun o =>
    let listed (o : Obj) : Obj :=
      match o.properties.findIdx? (·.1 == k) with
      | some i =>
        { o with
          properties := o.properties.modify i fun (k, p) => (k, { p with slot := .data v true }) }
      | none => o
    match k with
    | .index i => if o.isArray then o.putElement i v else listed o
    | _ => listed o

/-- Adds a property that assignments make. -/
def addOwn (r : Ref) (k : Key) (v : Value) (s : Store) : Store :=
  s.modifyObj r fun o =>
    match k with
    | .index i =>
      if o.isArray then o.putElement i v
      else { o with properties := o.properties.push (k, .plain v) }
    | _ => { o with properties := o.properties.push (k, .plain v) }

/-- Tells the variable that stands for an argument what property the argument becomes. -/
def settleTwin (r : Ref) (k : Key) (p : Property) (s : Store) : Store :=
  match p.slot with
  | .data v true => s.assignTwin r k v
  | .data v false => (s.assignTwin r k v).partTwin r k
  | .accessor .. => s.partTwin r k

/-- Puts a property of any kind in its place. -/
def putOwn (r : Ref) (k : Key) (p : Property) (s : Store) : Store :=
  (s.settleTwin r k p).modifyObj r fun o =>
    match k with
    | .index i =>
      if o.isArray then
        match p with
        | { slot := .data v true, enumerable := true, configurable := true } =>
          (o.drop k).putElement i v
        | _ => ((o.dropElement i).put k p).lengthen (i + 1)
      else o.put k p
    | _ => o.put k p

def dropOwn (r : Ref) (k : Key) (s : Store) : Store :=
  (s.partTwin r k).modifyObj r fun o =>
    match k with
    | .index i => (o.dropElement i).drop k
    | _ => o.drop k

/-- Whether an array takes an element at a place. -/
def takesElement (s : Store) (r : Ref) (k : Key) : Bool :=
  match k, (s.obj r).kind with
  | .index i, .array _ length w => w || i < length
  | _, _ => true

end Store

namespace Exec

def readOnly (k : Key) : Exec Refusal := return some ("'" ++ (← keyName k) ++ "' is read-only")

def inconsistent {α : Type} (doing : String) : Exec α := typeError ("proxy: inconsistent " ++ doing)

/-- A function of a proxy's handler, if there is one. -/
def trap? (handler : Ref) (name : String) : Exec (Option Value) := do
  let f ← getNamed handler name
  return if f.isNullish then none else some f

/-- Whether an object may get more properties. -/
def isExtensibleWithin : Nat → Ref → Exec Bool
  | 0, _ => stackOverflow
  | n + 1, r => do
    if ← isProxy r then
      let (target, handler) ← proxyParts r
      match ← trap? handler "isExtensible" with
      | none => isExtensibleWithin n target
      | some trap =>
        let told := (← call trap (.object handler) [.object target]).truth
        if told != (← isExtensibleWithin n target) then inconsistent "isExtensible"
        return told
    else read fun s => (s.obj r).extensible

def isExtensible (r : Ref) : Exec Bool := isExtensibleWithin proxyDepth r

def ensure : Refusal → Exec Unit
  | none => return ()
  | some complaint => typeError complaint

/-- Sets the length of an array. -/
def setArrayLength (r : Ref) (v : Value) : Exec Refusal := do
  let x ← toNumber v
  match arrayLength? x with
  | none => rangeError "invalid array length"
  | some n =>
    match ← inspect r Kind.length? with
    | some (length, writable) =>
      if n = length then return none
      if ! writable then return ← readOnly lengthKey
      if ← modifyGet (·.truncate r n) then return none
      return some "not configurable"
    | none => return none
where
  arrayLength? (x : Float) : Option Nat :=
    match arrayIndex? x with
    | some n => some n
    | none => if x == 4294967295.0 then some 4294967295 else none

/-- A value as the elements of a typed array are. -/
def elementValue (t : ElementType) (v : Value) : Exec Value := do
  if t.isBig then return .big (← toBig v) else return .number (← toNumber v)

/-- Sets an element of a typed array; a place outside of it is passed over. -/
def setElement (r : Ref) (i : Nat) (v : Value) : Exec Unit := do
  match ← kindOf r with
  | .typed t buffer offset length =>
    let v ← elementValue t v
    if i < length then
      modify (·.modifyObj buffer fun o =>
        match o with
        | { kind := .buffer bytes shared, .. } =>
          { o with kind := .buffer (t.write bytes (offset + i * t.width) v) shared }
        | _ => o)
  | _ => return ()

/-- Refuses an element of an array for which there is no memory. -/
def checkGrowth (r : Ref) (k : Key) : Exec Unit := do
  match k with
  | .index i => if ← read (·.cannotGrow r i) then outOfMemory
  | _ => return ()

/-- Whether a name stands for an element of a typed array. -/
def isElementKey (r : Ref) (k : Key) : Exec Bool :=
  inspect r fun kind =>
    match kind with
    | .typed .. => k.isNumeric
    | _ => false

/-- The object that describes a property. -/
def describeProperty (p : Property) : Exec Value := do
  let fields := match p.slot with
    | .data v w => #[("value", v), ("writable", .bool w)]
    | .accessor r w => #[("get", r), ("set", w)]
  let fields := (fields.push ("enumerable", .bool p.enumerable)).push
    ("configurable", .bool p.configurable)
  let r ← newObject
    { prototype := some Intrinsic.objectPrototype.ref,
      properties := fields.map fun (n, v) => (.ofString n, .plain v) }
  return .object r

/-- An own property of an object as it is behind all proxies. -/
def bareProperty? (n : Nat) (r : Ref) (k : Key) : Exec (Option Property) :=
  match n with
  | 0 => return none
  | n + 1 => do
    match ← kindOf r with
    | .proxy (some target) .. => bareProperty? n target k
    | _ => read (·.own? r k)

/-- Whether an object has a property itself or from its prototypes. -/
def hasWithin : Nat → Ref → Key → Exec Bool
  | 0, _, _ => stackOverflow
  | n + 1, r, k => do
    match ← read (·.search r k) with
    | .missing => return false
    | .found .. => return true
    | .proxy p =>
      let (target, handler) ← proxyParts p
      match ← trap? handler "has" with
      | none => hasWithin n target k
      | some trap =>
        if (← call trap (.object handler) [.object target, .ofKey k]).truth then return true
        match ← bareProperty? proxyDepth target k with
        | some p =>
          if ! p.configurable || ! (← read fun s => (s.obj target).extensible) then
            inconsistent "has"
        | none => pure ()
        return false

def has (r : Ref) (k : Key) : Exec Bool := hasWithin proxyDepth r k

/-- Reads a description of a property. -/
def toDescriptor (v : Value) : Exec Descriptor := do
  match v with
  | .object r =>
    let field (name : String) : Exec (Option Value) := do
      if ← has r (.ofString name) then return some (← getNamed r name) else return none
    let enumerable ← field "enumerable"
    let configurable ← field "configurable"
    let value ← field "value"
    let writable ← field "writable"
    let read ← field "get"
    match read with
    | some f => if ! f.isUndefined && ! (← isCallable f) then typeError "Getter must be a function"
    | none => pure ()
    let write ← field "set"
    match write with
    | some f => if ! f.isUndefined && ! (← isCallable f) then typeError "Setter must be a function"
    | none => pure ()
    if (read.isSome || write.isSome) && (value.isSome || writable.isSome) then
      typeError ("Invalid property descriptor. Cannot both specify accessors and a value or " ++
        "writable attribute")
    return { value, read, write, writable := writable.map (·.truth),
             enumerable := enumerable.map (·.truth), configurable := configurable.map (·.truth) }
  | _ => typeError "Property description must be an object"

/-- What a proxy's handler tells of a property, which must agree with the property of the target. -/
def checkedProperty (told : Value) (p : Option Property) (extensible : Exec Bool) :
    Exec (Option Property) := do
  let wrong {α : Type} : Exec α := inconsistent "getOwnPropertyDescriptor"
  match told with
  | .undefined =>
    match p with
    | none => return none
    | some p => if ← pure p.configurable <&&> extensible then return none else wrong
  | .object _ =>
    let extensible ← extensible
    let d ← toDescriptor told
    let q := d.property
    match p with
    | none => if ! extensible || ! q.configurable then wrong
    | some p =>
      let keepsWritable : Bool :=
        match p.slot, d.writable with
        | .data _ true, some false => false
        | _, _ => true
      if ! p.admits d || (! q.configurable && (p.configurable || ! keepsWritable)) then wrong
    return some q
  | _ => wrong

/-- An own property of any object. -/
def getOwnWithin : Nat → Ref → Key → Exec (Option Property)
  | 0, _, _ => stackOverflow
  | n + 1, r, k => do
    if ← isProxy r then
      let (target, handler) ← proxyParts r
      match ← trap? handler "getOwnPropertyDescriptor" with
      | none => getOwnWithin n target k
      | some trap =>
        let told ← call trap (.object handler) [.object target, .ofKey k]
        checkedProperty told (← getOwnWithin n target k) (isExtensible target)
    else read (·.own? r k)

def getOwn (r : Ref) (k : Key) : Exec (Option Property) := getOwnWithin proxyDepth r k

/-- Defines an element of a typed array, which is always writable, listed and configurable. -/
def defineElement (r : Ref) (k : Key) (d : Descriptor) : Exec Refusal := do
  if (← read (·.own? r k)).isNone then return some "out-of-bound index in typed array"
  if d.isAccessor || d.writable == some false || d.enumerable == some false ||
      d.configurable == some false then
    return some "invalid descriptor flags"
  match d.value, k with
  | some v, .index i => setElement r i v
  | _, _ => pure ()
  return none

/-- Defines a property of an object that is no proxy. -/
def defineOrdinary (r : Ref) (k : Key) (d : Descriptor) : Exec Refusal := do
  if ← isElementKey r k then return ← defineElement r k d
  match ← read (·.own? r k) with
  | some p =>
    match p.change d with
    | none => return some "property is not configurable"
    | some p' =>
      if k == lengthKey && (← inspect r Kind.isArray) then
        match d.value with
        | some v =>
          match ← setArrayLength r v with
          | none => pure ()
          | refusal => return refusal
        | none => pure ()
        match d.writable with
        | some false =>
          modify (·.modifyObj r fun o =>
            match o with
            | { kind := .array items length _, .. } => { o with kind := .array items length false }
            | o => o)
        | _ => pure ()
        return none
      modify (·.putOwn r k p')
      return none
  | none =>
    if ! (← read fun s => (s.obj r).extensible) then return notExtensible
    if ! (← read (·.takesElement r k)) then return ← readOnly lengthKey
    checkGrowth r k
    modify (·.putOwn r k d.property)
    return none

def describe (d : Descriptor) : Exec Value := do
  let field (name : String) (v : Option Value) : Array (Key × Property) :=
    match v with
    | some v => #[(.ofString name, .plain v)]
    | none => #[]
  let r ← newObject
    { prototype := some Intrinsic.objectPrototype.ref,
      properties := field "value" d.value ++ field "writable" (d.writable.map .bool) ++
        field "get" d.read ++ field "set" d.write ++
        field "enumerable" (d.enumerable.map .bool) ++
        field "configurable" (d.configurable.map .bool) }
  return .object r

/-- Whether a property of a proxy's target shows that it was defined as described. -/
def agrees (p : Property) (d : Descriptor) : Bool :=
  let hides := d.configurable == some false
  let sides : Bool :=
    match p.slot with
    | .accessor r w =>
      p.configurable || ((d.read.map (·.same r)).getD true && (d.write.map (·.same w)).getD true)
    | .data v w =>
      p.configurable ||
        (if w then ! d.isData else (d.value.map (·.same v)).getD true)
  p.admits d && ! (p.configurable && hides) && sides

def defineWithin : Nat → Ref → Key → Descriptor → Exec Refusal
  | 0, _, _, _ => stackOverflow
  | n + 1, r, k, d => do
    if ← isProxy r then
      let (target, handler) ← proxyParts r
      match ← trap? handler "defineProperty" with
      | none => defineWithin n target k d
      | some trap =>
        let v ← describe d
        if ! (← call trap (.object handler) [.object target, .ofKey k, v]).truth then
          return some "proxy: defineProperty exception"
        let fine ←
          match ← getOwn target k with
          | none => do
            pure ((← read fun s => (s.obj target).extensible) && d.configurable != some false)
          | some p => pure (agrees p d)
        if ! fine then inconsistent "defineProperty"
        return none
    else defineOrdinary r k d

def define (r : Ref) (k : Key) (d : Descriptor) : Exec Refusal := defineWithin proxyDepth r k d

/-- Defines a property as assignments make them. -/
def defineValue (r : Ref) (k : Key) (v : Value) : Exec Unit := do
  ensure (← define r k (.plain v))

/-- Gives a value to the receiver of an assignment itself. -/
def setReceiver (receiver : Value) (k : Key) (v : Value) : Exec Refusal := do
  match receiver with
  | .object r =>
    match ← getOwn r k with
    | some { slot := .accessor .., .. } => return some "setter is forbidden"
    | some { slot := .data _ writable, .. } =>
      if ! writable then return ← readOnly k
      define r k { value := some v }
    | none =>
      if ← isProxy r then define r k (.plain v)
      else
        if ! (← read fun s => (s.obj r).extensible) then return notExtensible
        if ! (← read (·.takesElement r k)) then return ← readOnly lengthKey
        checkGrowth r k
        modify (·.addOwn r k v)
        return none
  | _ => return some "not an object"

def setWithin : Nat → Ref → Key → Value → Value → Exec Refusal
  | 0, _, _, _, _ => stackOverflow
  | n + 1, r, k, v, receiver => do
    if ← isElementKey r k then
      match k with
      | .index i => setElement r i v
      | _ => pure ()
      return none
    match ← read (·.search r k) with
    | .missing => setReceiver receiver k v
    | .found p owner =>
      match p.slot with
      | .accessor _ f =>
        if f.isUndefined then return some "no setter for property"
        let _ ← call f receiver [v]
        return none
      | .data _ writable =>
        if ! writable then return ← readOnly k
        if receiver.same (.object owner) then
          if k == lengthKey && (← inspect owner Kind.isArray) then setArrayLength owner v
          else
            modify (·.assignOwn owner k v)
            return none
        else setReceiver receiver k v
    | .proxy p =>
      let (target, handler) ← proxyParts p
      match ← trap? handler "set" with
      | none => setWithin n target k v receiver
      | some trap =>
        let answer ← call trap (.object handler) [.object target, .ofKey k, v, receiver]
        if ! answer.truth then return some "proxy: cannot set property"
        match ← getOwn target k with
        | some { slot := .data w false, configurable := false, .. } =>
          if ! w.same v then inconsistent "set"
        | some { slot := .accessor _ .undefined, configurable := false, .. } => inconsistent "set"
        | _ => pure ()
        return none

def setFrom (r : Ref) (k : Key) (v receiver : Value) : Exec Refusal :=
  setWithin proxyDepth r k v receiver

/-- Sets a property of an object. -/
def set (r : Ref) (k : Key) (v : Value) : Exec Unit := do
  ensure (← setFrom r k v (.object r))

/-- Sets a property of any value, if that can be carried out. -/
def assign (base : Value) (k : Key) (v : Value) : Exec Refusal := do
  match base with
  | .object r => setFrom r k v base
  | .undefined => typeError ("cannot set property '" ++ (← keyName k) ++ "' of undefined")
  | .null => typeError ("cannot set property '" ++ (← keyName k) ++ "' of null")
  | .text u =>
    if k == lengthKey then return ← readOnly k
    match k with
    | .index i => if i < u.size then return some "not an object"
    | _ => pure ()
    setFrom Intrinsic.stringPrototype.ref k v base
  | _ => setFrom (base.family.getD .objectPrototype).ref k v base

def deleteWithin : Nat → Ref → Key → Exec Refusal
  | 0, _, _ => stackOverflow
  | n + 1, r, k => do
    if ← isProxy r then
      let (target, handler) ← proxyParts r
      match ← trap? handler "deleteProperty" with
      | none => deleteWithin n target k
      | some trap =>
        if ! (← call trap (.object handler) [.object target, .ofKey k]).truth then
          return some "could not delete property"
        match ← getOwn target k with
        | some p =>
          let kept ← pure ! p.configurable <||> not <$> isExtensible target
          if kept then inconsistent "deleteProperty"
        | none => pure ()
        return none
    else
      match ← read (·.own? r k) with
      | none => return none
      | some p =>
        if ! p.configurable || (← isElementKey r k) then return some "could not delete property"
        modify (·.dropOwn r k)
        return none

def deleteOwn (r : Ref) (k : Key) : Exec Refusal := deleteWithin proxyDepth r k

def prototypeWithin : Nat → Ref → Exec (Option Ref)
  | 0, _ => stackOverflow
  | n + 1, r => do
    if ← isProxy r then
      let (target, handler) ← proxyParts r
      match ← trap? handler "getPrototypeOf" with
      | none => prototypeWithin n target
      | some trap =>
        let p ←
          match ← call trap (.object handler) [.object target] with
          | .object p => pure (some p)
          | .null => pure none
          | _ => inconsistent "prototype"
        if ← not <$> isExtensible target <&&> (· != p) <$> prototypeWithin n target then
          inconsistent "prototype"
        return p
    else read fun s => (s.obj r).prototype

def prototypeOf (r : Ref) : Exec (Option Ref) := prototypeWithin proxyDepth r

def setPrototypeWithin : Nat → Ref → Option Ref → Exec Refusal
  | 0, _, _ => stackOverflow
  | n + 1, r, p => do
    if ← isProxy r then
      let (target, handler) ← proxyParts r
      match ← trap? handler "setPrototypeOf" with
      | none => setPrototypeWithin n target p
      | some trap =>
        let v := (p.map Value.object).getD .null
        if ! (← call trap (.object handler) [.object target, v]).truth then
          return some "proxy: bad prototype"
        if ← not <$> isExtensible target <&&> (· != p) <$> prototypeOf target then
          inconsistent "prototype"
        return none
    else
      if (← read fun s => (s.obj r).prototype) == p then return none
      if r == Intrinsic.objectPrototype.ref then
        return some ("'Immutable prototype object 'Object.prototype' cannot have their prototype " ++
          "set'")
      if ! (← read fun s => (s.obj r).extensible) then return notExtensible
      match p with
      | some q =>
        if q == r || (← read fun s => s.inherits r (s.objects.size + 1) q) then
          return some "circular prototype chain"
      | none => pure ()
      modify (·.modifyObj r fun o => { o with prototype := p })
      return none

def setPrototype (r : Ref) (p : Option Ref) : Exec Refusal := setPrototypeWithin proxyDepth r p

def preventExtensionsWithin : Nat → Ref → Exec Refusal
  | 0, _ => stackOverflow
  | n + 1, r => do
    if ← isProxy r then
      let (target, handler) ← proxyParts r
      match ← trap? handler "preventExtensions" with
      | none => preventExtensionsWithin n target
      | some trap =>
        if ! (← call trap (.object handler) [.object target]).truth then
          return some "proxy: preventExtensions exception"
        if ← isExtensible target then inconsistent "preventExtensions"
        return none
    else
      modify (·.modifyObj r fun o => { o with extensible := false })
      return none

def preventExtensions (r : Ref) : Exec Refusal := preventExtensionsWithin proxyDepth r

def newArray (items : List Value) : Exec Value := do
  let row := items.toArray.map some
  if ← read (·.exceeds row.size) then outOfMemory
  let r ← newObject
    { prototype := some Intrinsic.arrayPrototype.ref, kind := .array row row.size true }
  return .object r

/-- The elements of an object that is like an array. -/
def listOf (r : Ref) : Exec (List Value) := do
  let n ← lengthOf r
  collect r n []
where
  collect (r : Ref) : Nat → List Value → Exec (List Value)
    | 0, items => return items
    | i + 1, items => do
      let v ← get r (.index i)
      collect r i (v :: items)

/-- The names that a proxy's handler gives must be those that its target cannot hide. -/
def checkKeys (target : Ref) (told known : List Key) : Exec Unit := do
  if ! told.Nodup then typeError "proxy: duplicate property"
  let extensible ← isExtensible target
  forEach
    (fun k => do
      match ← getOwn target k with
      | some p =>
        if (! p.configurable || ! extensible) && ! told.contains k then
          typeError "proxy: target property must be present in proxy ownKeys"
      | none => return ())
    known
  if ! extensible && told.any (! known.contains ·) then
    typeError ("proxy: property not present in target were returned by non extensible proxy")

def keysWithin : Nat → Ref → Exec (List Key)
  | 0, _ => stackOverflow
  | n + 1, r => do
    if ← isProxy r then
      let (target, handler) ← proxyParts r
      match ← trap? handler "ownKeys" with
      | none => keysWithin n target
      | some trap =>
        let list ← call trap (.object handler) [.object target]
        let length ← toLength (← getOf list lengthKey)
        let told ← mapEach
          (fun i => do
            match ← getOf list (.index i) with
            | .text u => return Key.ofUnits u
            | .symbol id => return .symbol id
            | _ => typeError "proxy: properties must be strings or symbols")
          (List.range length) []
        checkKeys target told (← keysWithin n target)
        return told
    else read (·.ownKeys r)

/-- The names of an object's own properties. -/
def keysOf (r : Ref) : Exec (List Key) := keysWithin proxyDepth r

/-- The names, other than symbols, of an object's own enumerable properties. -/
def enumerableKeys (r : Ref) : Exec (List Key) := do
  let keys := (← keysOf r).filter (! ·.isSymbol)
  let listed ← mapEach
    (fun k => do
      match ← getOwn r k with
      | some p => return if p.enumerable then [k] else []
      | none => return [])
    keys []
  return listed.flatten

/-- Does something with each enumerable property of a value but some. Only a proxy is asked anew
before each of them. -/
def forProperties (source : Value) (without : List Key) (step : Key → Value → Exec Unit) :
    Exec Unit := do
  if source.isNullish then return ()
  let r ← toObject source
  let asks ← isProxy r
  let keys := (← keysOf r).filter (! without.contains ·)
  let listed (s : Store) (k : Key) : Bool := ((s.own? r k).map (·.enumerable)).getD false
  let keys ← read fun s => if asks then keys else keys.filter (listed s)
  forEach
    (fun k => do
      if asks then
        match ← getOwn r k with
        | some p => if ! p.enumerable then return ()
        | none => return ()
      let v ← get r k
      step k v)
    keys

/-- Copies the enumerable properties of a value to an object, all but some. -/
def copyProperties (source : Value) (without : List Key) (target : Ref) : Exec Unit :=
  forProperties source without fun k v => modify (·.putOwn target k (.plain v))

/-- Whether an object is an array, or a proxy for one. -/
def isArrayWithin : Nat → Ref → Exec Bool
  | 0, _ => stackOverflow
  | n + 1, r => do
    match ← kindOf r with
    | .array .. => return true
    | .proxy .. =>
      let (target, _) ← proxyParts r
      isArrayWithin n target
    | _ => return false

def isArray (v : Value) : Exec Bool :=
  match v with
  | .object r => isArrayWithin proxyDepth r
  | _ => return false

end Exec

end CollectionRunner.Script
