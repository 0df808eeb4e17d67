import CollectionRunner.Script.Programs

namespace CollectionRunner.Script

/-- Something that can be read and assigned. -/
inductive Reference where
  | name (scope : Nat) (s : String)
  | property (base : Value) (k : Key)
  | hidden (base : Value) (name : HiddenName)
  /-- A property looked for from an object on, for another one. -/
  | inherited (start : Ref) (k : Key) (receiver : Value)

namespace Exec

/-- What a hidden name stands for. -/
def hiddenName (scope : Nat) (s : String) : Exec HiddenName := do
  match ← read fun st => st.hiddenName? s (st.scopes.size + 1) scope with
  | some h => return h
  | none => syntaxError ("undefined private field '#" ++ s ++ "'")

def hiddenSlot? (r : Ref) (id : Nat) : Exec (Option Slot) :=
  read fun s => ((s.obj r).hidden.find? (·.1 == id)).map (·.2)

def hiddenReadOnly {α : Type} (h : HiddenName) : Exec α :=
  typeError ("'#" ++ h.name ++ "' is read-only")

/-- The slot of a hidden name in an object that has it. -/
def hiddenSlot (base : Value) (h : HiddenName) : Exec Slot := do
  match base with
  | .object r =>
    match ← hiddenSlot? r h.id with
    | some slot => return slot
    | none =>
      if h.kind = .field then
        typeError ("private class field '#" ++ h.name ++ "' does not exist")
      else typeError "invalid brand on object"
  | _ => typeError "not an object"

def readHidden (base : Value) (h : HiddenName) : Exec Value := do
  if h.kind = .setter then hiddenReadOnly h
  match ← hiddenSlot base h with
  | .data v _ => return v
  | .accessor f _ => call f base []

def writeHidden (base : Value) (h : HiddenName) (v : Value) : Exec Unit := do
  if h.kind = .method || h.kind = .getter then hiddenReadOnly h
  match base, ← hiddenSlot base h with
  | .object r, .data .. =>
    modify (·.modifyObj r fun o =>
      { o with hidden := o.hidden.map fun (i, slot) =>
          if i == h.id then (i, .data v true) else (i, slot) })
  | _, .data .. => return ()
  | _, .accessor _ f =>
    let _ ← call f base [v]

/-- The object from which `super` looks for properties. -/
def superStart (scope : Nat) : Exec Ref := do
  match (← read (·.frame scope)).home with
  | some home =>
    match ← prototypeOf home with
    | some p => return p
    | none => typeError "not an object"
  | none => syntaxError "'super' is only valid in a method"

def checkBase (base : Value) (doing : String) : Exec Unit := do
  match base with
  | .undefined => typeError ("cannot " ++ doing ++ " property of undefined")
  | .null => typeError ("cannot " ++ doing ++ " property of null")
  | _ => return ()

def reference (scope : Nat) (e : Expr) : Exec Reference := do
  match e with
  | .name s => return .name scope s
  | .member o k => return .property (← eval scope o) k
  | .element o k =>
    let base ← eval scope o
    let key ← eval scope k
    checkBase base "read"
    return .property base (← toKey key)
  | .hiddenMember o s =>
    let base ← eval scope o
    return .hidden base (← hiddenName scope s)
  | .superMember k => return .inherited (← superStart scope) k (← readThis scope)
  | .superElement k =>
    let this ← readThis scope
    let key ← eval scope k
    return .inherited (← superStart scope) (← toKey key) this
  | _ => syntaxError "invalid assignment left-hand side"

def readReference : Reference → Exec Value
  | .name scope s => readName scope s
  | .property base k => getOf base k
  | .hidden base h => readHidden base h
  | .inherited start k receiver => getFrom start k receiver

def writeReference (scope : Nat) (r : Reference) (v : Value) : Exec Unit := do
  match r with
  | .name scope s => writeName scope s v
  | .property base k => carryOut scope (← assign base k v)
  | .hidden base h => writeHidden base h v
  | .inherited start k receiver => carryOut scope (← setFrom start k v receiver)

/-- Reads what an access says. -/
def readAccess (scope : Nat) (e : Expr) : Exec Value := do
  match e with
  | .element o k =>
    let base ← eval scope o
    let key ← eval scope k
    checkBase base "read"
    getOf base (← toKey key)
  | _ => readReference (← reference scope e)

def arguments (scope : Nat) : List Item → List Value → Exec (List Value)
  | [], done => return done.reverse
  | .one e :: rest, done => do
    let v ← eval scope e
    arguments scope rest (v :: done)
  | .spread e :: rest, done => do
    let v ← eval scope e
    let _ ← getOf v KnownSymbol.iterator.key
    let done ← spread v done
    arguments scope rest done
  | .hole :: rest, done => arguments scope rest (.undefined :: done)

/-- A function that is called, and the value that it is called on. -/
def calleeOf (scope : Nat) (e : Expr) : Exec (Value × Value) := do
  match e with
  | .name s =>
    let found ← meaning scope s
    let this :=
      match found with
      | .property r _ => .object r
      | _ => .undefined
    match ← readResolved? found s with
    | some f => return (f, this)
    | none => undefinedName s
  | .member o k =>
    let base ← eval scope o
    return (← getOf base k, base)
  | .element o k =>
    let base ← eval scope o
    let key ← eval scope k
    checkBase base "read"
    return (← getOf base (← toKey key), base)
  | .hiddenMember .. =>
    match ← reference scope e with
    | .hidden base h => return (← readHidden base h, base)
    | r => return (← readReference r, .undefined)
  | .superMember .. | .superElement .. =>
    let r ← reference scope e
    return (← readReference r, ← readThis scope)
  | _ => return (← eval scope e, .undefined)

/-- The function and its value, after an optional link or in a chain of its own. -/
def callee (scope : Nat) (e : Expr) : Exec (Value × Value) := do
  match e with
  | .optional e =>
    let (f, this) ← calleeOf scope e
    if f.isNullish then fail .cut
    return (f, this)
  | .chain e =>
    recover (calleeOf scope e) fun
      | .cut => return (.undefined, .undefined)
      | f => fail f
  | _ => calleeOf scope e

def evalCall (scope : Nat) (e : Expr) (items : List Item) (at' : Position) : Exec Value := do
  let (f, this) ← callee scope e
  reach at'
  let args ← arguments scope items []
  match e with
  | .name "eval" =>
    if f.same (.object Intrinsic.evaluator.ref) then evalText scope (args.headD .undefined)
    else call f this args
  | _ => call f this args

def evalConstruct (scope : Nat) (e : Expr) (items : List Item) (at' : Position) : Exec Value := do
  let f ← eval scope e
  reach at'
  let args ← arguments scope items []
  construct f args f

/-- Constructs with the parent class, which gives the new object. -/
def evalSuperCall (scope : Nat) (items : List Item) (at' : Position) : Exec Value := do
  let frame ← read (·.frame scope)
  let function := frame.function.getD 0
  let parent ← prototypeOf function
  reach at'
  let args ← arguments scope items []
  let f := (parent.map Value.object).getD .null
  if ! (← isConstructor f) then typeError "not a constructor"
  let v ← construct f args frame.newTarget
  let at' ← read (·.frameScope scope)
  if (← read fun s => (s.frame scope).this).isSome then
    referenceError "'this' can be initialized only once"
  modify (·.modifyScope at' fun x =>
    { x with frame := x.frame.map fun f => { f with this := some v } })
  match v with
  | .object r => giveFields function r
  | _ => pure ()
  return v

def evalTemplate (scope : Nat) : List (Expr × Units) → Units → Exec Value
  | [], done => return .text done
  | (e, after) :: rest, done => do
    let v ← eval scope e
    let u ← toUnits v
    evalTemplate scope rest (done ++ u ++ after)

/-- Makes an object that cannot be changed any more. -/
def freezeArray (r : Ref) : Exec Unit :=
  modify (·.modifyObj r fun o =>
    match o.kind with
    | .array items length _ =>
      { o with
        extensible := false
        kind := .array #[] length false
        properties := (items.mapIdx fun i v => (Key.index i,
            ({ slot := .data (v.getD .undefined) false, configurable := false } : Property))) ++
          o.properties.map fun (k, p) => (k,
            match p.slot with
            | .data v _ => { p with slot := .data v false, configurable := false }
            | _ => { p with configurable := false }) }
    | _ => o)

/-- The texts of a template that is handed to a function, made when they are needed first. -/
def templateTexts (site : Nat) (cooked : List (Option Units)) (raw : List Units) : Exec Value := do
  match ← read fun s => s.templates.find? (·.1 == site) with
  | some (_, r) => return .object r
  | none =>
    let rawValue ← newArray (raw.map .text)
    let strings ← newArray (cooked.map fun u => (u.map Value.text).getD .undefined)
    match strings, rawValue with
    | .object s, .object r =>
      freezeArray r
      modify (·.putOwn s (.ofString "raw") (.fixed rawValue))
      freezeArray s
      modify fun st => { st with templates := st.templates.push (site, s) }
    | _, _ => pure ()
    return strings

def evalTagged (scope : Nat) (tag : Expr) (site : Nat) (cooked : List (Option Units))
    (raw : List Units) (parts : List Expr) : Exec Value := do
  let (f, this) ← callee scope tag
  let strings ← templateTexts site cooked raw
  let args ← mapEach (eval scope) parts []
  call f this (strings :: args)

def evalArray (scope : Nat) (items : List Item) : Exec Value := do
  match ← newArray [] with
  | .object r =>
    forEach
      (fun
        | .hole => modify (·.modifyObj r fun o =>
            match o with
            | { kind := .array items length w, .. } =>
              { o with kind := .array (items.push none) (length + 1) w }
            | _ => o)
        | .one e => do
          let v ← eval scope e
          append r v
        | .spread e => do
          let v ← eval scope e
          let _ ← getOf v KnownSymbol.iterator.key
          forEach (append r) (← valuesOf v))
      items
    return .object r
  | v => return v
where
  append (r : Ref) (v : Value) : Exec Unit :=
    modify (·.modifyObj r fun o =>
      match o with
      | { prototype, extensible, properties, hidden, kind := .array items length w } =>
        { prototype, extensible, properties, hidden,
          kind := .array (items.push (some v)) (length + 1) w }
      | o => o)

/-- The name that a function takes from its property. -/
def nameOfKey (k : Key) : Exec Units := do
  match k with
  | .symbol id =>
    match ← read fun s => s.symbols.getD id none with
    | some u => return .ofString "[" ++ u ++ .ofString "]"
    | none => return #[]
  | _ => return (k.units?).getD #[]

/-- The key of a property. -/
def propertyKey (scope : Nat) (name : PropertyName) : Exec Key := do
  match name with
  | .key k => return k
  | .computed e => toKey (← eval scope e)
  | .hidden s => return .symbol (← hiddenName scope s).id

/-- Makes a method for a property of its home. -/
def makeMethod (scope : Nat) (home : Ref) (f : Function) (name : PropertyName) (k : Key) :
    Exec Value := do
  let own ←
    match name with
    | .hidden s => pure ("#" ++ s)
    | _ => pure (← nameOfKey k).lossyString
  makeFunction scope (f.named (f.info.role.nameOf own)) (some home)

/-- The description of a property whose function is a method or one side of an accessor. -/
def methodDescriptor (role : FunctionRole) (v : Value) (enumerable : Bool) : Descriptor :=
  let d : Descriptor := { enumerable := some enumerable, configurable := some true }
  match role with
  | .getter => { d with read := some v }
  | .setter => { d with write := some v }
  | _ => { d with value := some v, writable := some true }

/-- The value of a property, which takes its name from it. -/
def namedValue (scope : Nat) (k : Key) (e : Expr) : Exec Value := do
  if e.isAnonymous then eval scope (e.named (← nameOfKey k).lossyString) else eval scope e

def evalObject (scope : Nat) (members : List Member) : Exec Value := do
  let r ← emptyObject
  forEach
    (fun
      | .property name e => do
        let k ← propertyKey scope name
        let v ← match name with
          | .computed _ => namedValue scope k e
          | _ => eval scope e
        modify (·.putOwn r k (.plain v))
      | .prototype e => do
        match ← eval scope e with
        | .object p => modify (·.modifyObj r fun o => { o with prototype := some p })
        | .null => modify (·.modifyObj r fun o => { o with prototype := none })
        | _ => return ()
      | .method name f => do
        let k ← propertyKey scope name
        let v ← makeMethod scope r f name k
        ensure (← define r k (methodDescriptor f.info.role v true))
      | .spread e => do
        match ← eval scope e with
        | .object o => copyProperties (.object o) [] r
        | _ => return ())
    members
  return .object r

def evalRegexp (source flags : Units) : Exec Value := do
  let r ← newObject
    { prototype := some Intrinsic.regexpPrototype.ref, kind := .regexp source flags,
      properties := #[(.ofString "lastIndex",
        { slot := .data (.number 0) true, enumerable := false, configurable := false })] }
  return .object r

def evalDelete (scope : Nat) (e : Expr) : Exec Value := do
  let remove (base : Value) (k : Key) : Exec Value := do
    let refusal ← deleteOwn (← toObject base) k
    carryOut scope refusal
    return .bool refusal.isNone
  let plain (e : Expr) : Exec Value := do
    match e with
    | .member o k => remove (← eval scope o) k
    | .element o k =>
      let base ← eval scope o
      let key ← eval scope k
      remove base (← toKey key)
    | .superMember .. | .superElement .. => referenceError "unsupported reference to 'super'"
    | .name s =>
      let global := Intrinsic.global.ref
      match ← meaning scope s with
      | .global => return .bool (← deleteOwn global (.ofString s)).isNone
      | .property r _ => return .bool (← deleteOwn r (.ofString s)).isNone
      | _ => return .bool false
    | _ =>
      let _ ← eval scope e
      return .bool true
  match e with
  | .chain e =>
    recover (plain e) fun
      | .cut => return .bool true
      | f => fail f
  | _ => plain e

def evalUpdate (scope : Nat) (up first : Bool) (target : Expr) : Exec Value := do
  let r ← reference scope target
  let before ← toNumeric (← readReference r)
  let after := stepped up before
  writeReference scope r after
  return if first then after else before

def evalLogical (scope : Nat) (op : LogicalOp) (a b : Expr) : Exec Value := do
  let v ← eval scope a
  if decides op v then return v else eval scope b
where
  /-- Whether the first value is the result. -/
  decides (op : LogicalOp) (v : Value) : Bool :=
    match op with
    | .and => ! v.truth
    | .or => v.truth
    | .coalesce => ! v.isNullish

def evalAssign (scope : Nat) (target : Pattern) (value : Expr) : Exec Value := do
  match target with
  | .name s =>
    let v ← eval scope value
    writeName scope s v
    return v
  | .target (.element o k) =>
    let base ← eval scope o
    let key ← eval scope k
    let v ← eval scope value
    carryOut scope (← assign base (← toKey key) v)
    return v
  | .target e =>
    let r ← reference scope e
    let v ← eval scope value
    writeReference scope r v
    return v
  | _ =>
    let v ← eval scope value
    bindPattern scope .assign target v
    return v

def evalAssignOp (scope : Nat) (op : BinaryOp) (target value : Expr) : Exec Value := do
  let r ← reference scope target
  let before ← readReference r
  let v ← eval scope value
  let after ← binary op before v
  writeReference scope r after
  return after

def evalAssignLogical (scope : Nat) (op : LogicalOp) (target value : Expr) : Exec Value := do
  let r ← reference scope target
  let before ← readReference r
  if evalLogical.decides op before then return before
  let v ← eval scope value
  writeReference scope r v
  return v

/-- What a generator does when it is entered again. -/
def obey : Signal → Exec Value
  | .next v => return v
  | .throw v => throwValue v
  | .return v => fail (.returned v)

/-- Waits for a value; nothing ever goes on after that. -/
def evalAwait (v : Value) : Exec Value := do
  obey (← yieldValue v)

/-- Yields all that another iterator gives. -/
def yieldAll (v : Value) : Exec Value := do
  let i ← iterate? v
  iterate (Signal.next .undefined) fun signal => do
    let answer ←
      match signal with
      | .next v => pure (some (← call i.next i.iterator [v]))
      | .throw v =>
        match ← method? i.iterator (.ofString "throw") with
        | some f => pure (some (← call f i.iterator [v]))
        | none =>
          closeIteration i
          typeError "iterator does not have a throw method"
      | .return v =>
        match ← method? i.iterator (.ofString "return") with
        | some f => pure (some (← call f i.iterator [v]))
        | none => fail (.returned v)
    match answer with
    | some (.object r) =>
      let done := (← getNamed r "done").truth
      let v ← getNamed r "value"
      if done then
        match signal with
        | .return _ => fail (.returned v)
        | _ => return .ok v
      else return .error (← yieldValue v)
    | _ => typeError "iterator must return an object"

/-- Loading of modules always fails, later. -/
def evalImport (e : Expr) (scope : Nat) : Exec Value := do
  let _ ← eval scope e
  newPromise .pending

/-- The value of an expression, given how classes are made. -/
def expression (classOf : Nat → Class → Exec Value) (scope : Nat) (e : Expr) : Exec Value := do
  match e with
  | .null => return .null
  | .bool b => return .bool b
  | .number x => return .number x
  | .big n => return .big n
  | .text u => return .text u
  | .this => readThis scope
  | .name s => readName scope s
  | .newTarget => return (← read (·.frame scope)).newTarget
  | .template head parts => evalTemplate scope parts head
  | .tagged tag site cooked raw parts => evalTagged scope tag site cooked raw parts
  | .regexp source flags => evalRegexp source flags
  | .array items => evalArray scope items
  | .object members => evalObject scope members
  | .function f => makeFunction scope f none
  | .classOf c => classOf scope c
  | .unary op e =>
    let v ← eval scope e
    unary op v
  | .typeOfName s =>
    let v ← readName? scope s
    return .ofString (← read fun st => (v.getD .undefined).typeName st)
  | .delete e => evalDelete scope e
  | .update up first target => evalUpdate scope up first target
  | .binary op a b =>
    let x ← eval scope a
    let y ← eval scope b
    binary op x y
  | .hiddenIn s e =>
    let v ← eval scope e
    match v with
    | .object r => return .bool (← hiddenSlot? r (← hiddenName scope s).id).isSome
    | _ => typeError "invalid 'in' operand"
  | .logical op a b => evalLogical scope op a b
  | .conditional c t f =>
    let v ← eval scope c
    if v.truth then eval scope t else eval scope f
  | .assign target value => evalAssign scope target value
  | .assignOp op target value => evalAssignOp scope op target value
  | .assignLogical op target value => evalAssignLogical scope op target value
  | .sequence a b =>
    let _ ← eval scope a
    eval scope b
  | .member o k =>
    let base ← eval scope o
    getOf base k
  | .element .. | .hiddenMember .. | .superMember .. | .superElement .. => readAccess scope e
  | .call f items at' => evalCall scope f items at'
  | .superCall items at' => evalSuperCall scope items at'
  | .construct f items at' => evalConstruct scope f items at'
  | .importCall e => evalImport e scope
  | .chain e =>
    recover (eval scope e) fun
      | .cut => return .undefined
      | f => fail f
  | .optional e =>
    let v ← eval scope e
    if v.isNullish then fail .cut
    return v
  | .await e => evalAwait (← eval scope e)
  | .yield none => obey (← yieldValue .undefined)
  | .yield (some e) =>
    let v ← eval scope e
    obey (← yieldValue v)
  | .yieldAll e => yieldAll (← eval scope e)

end Exec

end CollectionRunner.Script
