import CollectionRunner.Script.Scopes

namespace CollectionRunner.Script

/-- How many calls may be under way at a time. -/
def mostCalls : Nat := 8000

/-- A property of a function that tells about it. -/
def Property.told (v : Value) : Property := { slot := .data v false, enumerable := false }

/-- The name that a function has from its property. -/
def FunctionRole.nameOf (role : FunctionRole) (name : String) : String :=
  match role with
  | .getter => "get " ++ name
  | .setter => "set " ++ name
  | _ => name

namespace Exec

/-- Runs something as a call within the calls under way. -/
def deeper {α : Type} (c : Call) (x : Exec α) : Exec α := do
  if mostCalls ≤ (← read (·.depth)) then stackOverflow
  modify fun s => { s with depth := s.depth + 1, calls := c :: s.calls }
  leaving x fun s => { s with depth := s.depth - 1, calls := s.calls.drop 1 }

/-- Runs something deeper, although no call of its own is told. -/
def deeperUntold {α : Type} (x : Exec α) : Exec α := do
  if mostCalls ≤ (← read (·.depth)) then stackOverflow
  modify fun s => { s with depth := s.depth + 1 }
  leaving x fun s => { s with depth := s.depth - 1 }

/-- Tells the place that the last call has come to. -/
def reach (p : Position) : Exec Unit :=
  modify fun s =>
    match s with
    | { calls := c :: rest, .. } => { s with calls := { c with position := p } :: rest }
    | s => s

def callOf (self : Ref) (i : FunctionInfo) : Call := ⟨some self, some i.file, i.start⟩

/-- The prototype of a function of its kind. -/
def functionPrototype (i : FunctionInfo) : Intrinsic :=
  match i.isAsync, i.isGenerator with
  | false, false => .functionPrototype
  | false, true => .generatorFunctionPrototype
  | true, false => .asyncFunctionPrototype
  | true, true => .asyncGeneratorFunctionPrototype

/-- The properties that a function begins with. -/
def functionProperties (length : Nat) (name : Units) : Array (Key × Property) :=
  #[(lengthKey, .told (.ofNat length)), (.ofString "name", .told (.text name))]

def makeFunction (scope : Nat) (f : Function) (home : Option Ref) : Exec Value := do
  keepScope scope
  let i := f.info
  let r ← newObject
    { prototype := some (functionPrototype i).ref
      kind := .function { code := f, scope, home }
      properties := functionProperties i.length (.ofString i.name) }
  if i.isGenerator then
    let proto := if i.isAsync then Intrinsic.asyncGeneratorPrototype else .generatorPrototype
    let p ← newObject { prototype := some proto.ref }
    modify (·.putOwn r (.ofString "prototype")
      { slot := .data (.object p) true, enumerable := false, configurable := false })
  else if i.role == .plain && ! i.isAsync then
    let p ← newObject
      { prototype := some Intrinsic.objectPrototype.ref,
        properties := #[(.ofString "constructor", .silent (.object r))] }
    modify (·.putOwn r (.ofString "prototype")
      { slot := .data (.object p) true, enumerable := false, configurable := false })
  return .object r

/-- Gives the functions of a block to their names. -/
def hoistFunctions (scope : Nat) (functions : List Function) : Exec Unit :=
  forEach
    (fun f => do
      let v ← makeFunction scope f none
      modify (·.giveFirst scope f.info.name v))
    functions

/-- Gives a function to the outermost variable of its name in the call at hand, or to the global
object. -/
def giveOutward (scope : Nat) (f : Function) : Exec Unit := do
  let v ← makeFunction scope f none
  match ← read fun s => s.outwardFrom f.info.name (s.scopes.size + 1) scope with
  | some (id, i) => modify (·.setVariable id i v)
  | none => set Intrinsic.global.ref (.ofString f.info.name) v

/-- Runs the statements of a block in a scope that holds its variables. -/
def runBlock (scope : Nat) : Block → Exec Unit
  | .mk _ functions body => do
    hoistFunctions scope functions
    forEach (exec scope) body

/-- Parameters that are mere names as variables, if all are. -/
def plainVariables : List PatternItem → List Value → Array Variable → Option (Array Variable)
  | [], _, done => some done
  | .item (.name s) none :: rest, args, done =>
    plainVariables rest (args.drop 1)
      (done.push { name := s, value := some (args.headD .undefined) })
  | _, _, _ => none

/-- What a parameter that is a mere name is bound to. -/
def plainBinding (p : Pattern) (v : Value) : List Variable :=
  match p with
  | .name s => [{ name := s, value := some v }]
  | _ => []

/-- Gives the arguments of a call to parameters of any form. The result holds what those that are
mere names have been given. -/
def bindParameters (scope : Nat) (rest : Option Pattern) :
    List PatternItem → List Value → Exec (List Variable)
  | [], args => do
    match rest with
    | some p =>
      let v ← newArray args
      bindPattern scope .declare p v
      return plainBinding p v
    | none => return []
  | .item p fallback :: items, args => do
    let given := args.headD .undefined
    let v ←
      match given, fallback with
      | .undefined, some e => eval scope e
      | _, _ => pure given
    bindPattern scope .declare p v
    return plainBinding p v ++ (← bindParameters scope rest items (args.drop 1))
  | .hole :: items, args => bindParameters scope rest items (args.drop 1)

/-- The variables of a function's statements where its parameters have their own. A parameter that is
a mere name begins with what it was `given`, any other with what it is now. -/
def bodyVariables (scope : Nat) (info : FunctionInfo) (declared : List Declared)
    (given : List Variable) : Exec (Array Variable) := do
  let now ← read fun s => (s.scopes.getD scope {}).vars
  let others := now.filter fun v =>
    info.parameters.contains v.name && ! given.any (·.name == v.name)
  let vars := info.vars.filter fun s => ! info.parameters.contains s
  return given.toArray ++ others ++
    (vars.map fun s => { name := s, value := some .undefined }).toArray ++ blockVariables declared

/-- Runs the body of a function in a new scope that holds its arguments. -/
def enterFunction (self : Ref) (c : Closure) (frame : Frame) (args : List Value)
    (body : Nat → Exec Value) : Exec Value := do
  match c.code with
  | .mk info parameters rest (.mk declared _ _) =>
    let frame? := if info.role == .arrow then none else some frame
    let ownVars := info.vars.filter fun v => ! info.parameters.contains v
    let others := (ownVars.map fun s => { name := s, value := some .undefined }).toArray ++
      blockVariables declared
    let own (all : Array Variable) : Array Variable :=
      match info.selfName with
      | some s =>
        if all.any (·.name == s) then all
        else
          all.push
            { name := s, value := some (.object self), constant := true, lenient := ! info.isStrict }
      | none => all
    match plainVariables parameters args #[], rest with
    | some first, none => inScope c.scope (own (first ++ others)) frame? body
    | _, _ =>
      let names : Array Variable :=
        (info.parameters.map fun s => { name := s, value := none }).toArray
      if info.hasInitials then
        inScope c.scope (own names) frame? fun scope => do
          let given ← bindParameters scope rest parameters args
          inScope scope (← bodyVariables scope info declared given) none body
      else
        inScope c.scope (own (names ++ others)) frame? fun scope => do
          let _ ← bindParameters scope rest parameters args
          body scope

/-- The statements of a function, up to what they return. -/
def runBody (c : Closure) (scope : Nat) : Exec Value :=
  match c.code with
  | .mk _ _ _ body =>
    recover
      (do
        runBlock scope body
        return .undefined)
      fun
        | .returned v => return v
        | f => fail f

def newPromise (state : PromiseState) : Exec Value := do
  let r ← newObject { prototype := some Intrinsic.promisePrototype.ref, kind := .promise state }
  return .object r

/-- A promise that is fulfilled with a value, or waits for it. -/
def resolvedPromise (v : Value) : Exec Value := do
  match v with
  | .object r =>
    catchThrown
      (do
        if ← isCallable (← getNamed r "then") then newPromise .pending
        else newPromise (.fulfilled v))
      fun e => newPromise (.rejected e)
  | _ => newPromise (.fulfilled v)

/-- Runs something that may wait. When it waits, nothing ever goes on with it. -/
def runAsync (body : Exec Value) : Exec Value := do
  let id ← createGenerator fun _ => body
  match ← resumeGenerator id (.next .undefined) with
  | .value _ => newPromise .pending
  | .finished v => resolvedPromise v
  | .failed (.thrown v) => newPromise (.rejected v)
  | .failed f => fail f

/-- The body of a generator, which is entered for the first time with a signal. -/
def generatorBody (body : Exec Value) : Signal → Exec Value
  | .next _ => body
  | .throw v => throwValue v
  | .return v => return v

def makeGenerator (self : Ref) (c : Closure) (scope : Nat) : Exec Value := do
  keepScope scope
  let fallback := if c.code.info.isAsync then Intrinsic.asyncGeneratorPrototype
    else Intrinsic.generatorPrototype
  let proto ←
    match ← getNamed self "prototype" with
    | .object p => pure p
    | _ => pure fallback.ref
  let id ← createGenerator (generatorBody (runBody c scope))
  let r ← newObject { prototype := some proto, kind := .generator (.suspended id) self }
  return .object r

/-- Enters a generator as a call of its function. -/
def resumeAs (function : Ref) (id : Nat) (signal : Signal) : Exec Yielded := do
  let before ← read (·.calls)
  match ← kindOf function with
  | .function c => modify fun s => { s with calls := callOf function c.code.info :: before }
  | _ => pure ()
  let y ← resumeGenerator id signal
  modify fun s => { s with calls := before }
  return y

/-- What `this` stands for in a function that is called on a value: an object, if the function does
not tell values apart. -/
def thisFor (i : FunctionInfo) (this : Value) : Exec Value := do
  if i.isStrict then return this
  if this.isNullish then return .object Intrinsic.global.ref
  return .object (← toObject this)

/-- Calls a function of the script. -/
def callClosure (self : Ref) (c : Closure) (this : Value) (args : List Value) : Exec Value := do
  let isStrict := c.code.info.isStrict
  let this ← thisFor c.code.info this
  let frame : Frame :=
    { this := some this, function := some self, home := c.home, arguments := some args, isStrict }
  match c.code.info.role, c.code.info.isAsync, c.code.info.isGenerator with
  | .constructor, _, _ | .derivedConstructor, _, _ =>
    typeError "class constructors must be invoked with 'new'"
  | _, false, false => enterFunction self c frame args (runBody c)
  | _, _, true => enterFunction self c frame args (makeGenerator self c)
  | _, true, false =>
    runAsync (enterFunction self c frame args fun scope => do
      keepScope scope
      runBody c scope)

/-- The prototype that a function gives to what it constructs. -/
def prototypeFor (newTarget : Value) (fallback : Intrinsic) : Exec Ref := do
  match newTarget with
  | .object r =>
    match ← getNamed r "prototype" with
    | .object p => return p
    | _ => return fallback.ref
  | _ => return fallback.ref

def definePlace (r : Ref) (place : Place) (v : Value) : Exec Unit := do
  match place with
  | .key k => defineValue r k v
  | .hidden id =>
    if (← readObj r).hidden.any (·.1 == id) then
      let name ← keyName (.symbol id)
      typeError ("private class field '" ++ name ++ "' already exists")
    modify (·.modifyObj r fun o => { o with hidden := o.hidden.push (id, .data v true) })

/-- Gives an object the hidden methods and the fields of a class. -/
def giveFields (function : Ref) (object : Ref) : Exec Unit := do
  match ← kindOf function with
  | .function c =>
    modify (·.modifyObj object fun o =>
      { o with hidden := c.hiddenMethods.foldl Array.push o.hidden })
    forEach
      (fun field => do
        let v ←
          match field.value with
          | some f => call (.object f) (.object object) []
          | none => pure .undefined
        definePlace object field.place v)
      c.fields
  | _ => return ()

def constructClosure (self : Ref) (c : Closure) (args : List Value) (newTarget : Value) :
    Exec Value := do
  let isStrict := c.code.info.isStrict
  let frame (this : Option Value) : Frame :=
    { this, function := some self, newTarget, home := c.home, arguments := some args, isStrict }
  match c.code.info.role with
  | .derivedConstructor =>
    enterFunction self c (frame none) args fun scope => do
      match ← runBody c scope with
      | .object r => return .object r
      | .undefined => readThis scope
      | _ => typeError "derived class constructor must return an object or undefined"
  | role =>
    let p ← prototypeFor newTarget .objectPrototype
    let object ← newObject { prototype := some p }
    if role == .constructor then giveFields self object
    match ← enterFunction self c (frame (some (.object object))) args (runBody c) with
    | .object r => return .object r
    | _ => return .object object

end Exec

end CollectionRunner.Script
