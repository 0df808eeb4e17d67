import CollectionRunner.Script.Iteration

namespace CollectionRunner.Script

/-- Where a name leads. -/
inductive Resolved where
  | variable (scope index : Nat)
  /-- The arguments of a call, which have not been made an object yet. -/
  | arguments (scope : Nat) (values : List Value) (function : Option Ref)
  /-- The property of an object that comes before the names outside. -/
  | property (object : Ref) (outside : Nat)
  | global

namespace Store

/-- What a name means in a scope; the innermost variable counts. -/
def resolveFrom (s : Store) (name : String) : Nat → Nat → Resolved
  | 0, _ => .global
  | n + 1, id =>
    let scope := s.scopes.getD id {}
    match scope.vars.findIdx? (·.name == name) with
    | some i => .variable id i
    | none =>
      let outside : Resolved :=
        match scope.parent with
        | some p => resolveFrom s name n p
        | none => .global
      match scope.frame, scope.subject with
      | some { arguments := some values, function, .. }, _ =>
        if name == "arguments" then .arguments id values function else outside
      | _, some r => .property r (scope.parent.getD 0)
      | _, none => outside

/-- What a name means in a scope, as far as no object needs to be asked. -/
def resolve (s : Store) (scope : Nat) (name : String) : Resolved :=
  s.resolveFrom name (s.scopes.size + 1) scope

def variableAt (s : Store) (scope index : Nat) : Option Variable :=
  (s.scopes.getD scope {}).vars[index]?

@[inline]
def modifyScope (id : Nat) (f : Scope → Scope) (s : Store) : Store :=
  { s with scopes := s.scopes.modify id f }

@[inline]
def modifyVariable (scope index : Nat) (f : Variable → Variable) (s : Store) : Store :=
  s.modifyScope scope fun x => { x with vars := x.vars.modify index f }

/-- Gives a value to a variable, and to the argument that it stands for. -/
def setVariable (scope index : Nat) (v : Value) (s : Store) : Store :=
  let twin := (s.variableAt scope index).bind (·.twin)
  let s := s.modifyVariable scope index fun x => { x with value := some v }
  match twin with
  | some (r, i) =>
    s.modifyObj r fun o =>
      { o with
        properties := o.properties.map fun (k, p) =>
          if k == .index i then (k, { p with slot := .data v true }) else (k, p) }
  | none => s

def addVariable (scope : Nat) (v : Variable) (s : Store) : Store :=
  s.modifyScope scope fun x => { x with vars := x.vars.push v }

/-- Gives a variable of this very scope its first value. -/
def giveFirst (scope : Nat) (name : String) (v : Value) (s : Store) : Store :=
  s.modifyScope scope fun x =>
    match x.vars.findIdx? (·.name == name) with
    | some i => { x with vars := x.vars.modify i fun x => { x with value := some v } }
    | none => x

/-- The outermost scope of a call, from the given scope on, that holds a variable of a name. -/
def outwardFrom (s : Store) (name : String) : Nat → Nat → Option (Nat × Nat)
  | 0, _ => none
  | n + 1, id =>
    let scope := s.scopes.getD id {}
    let own := (scope.vars.findIdx? (·.name == name)).map fun i => (id, i)
    match scope.frame, scope.parent with
    | none, some p => (outwardFrom s name n p).or own
    | _, _ => own

/-- The innermost scope that belongs to a call. -/
def frameScopeFrom (s : Store) : Nat → Nat → Nat
  | 0, id => id
  | n + 1, id =>
    let scope := s.scopes.getD id {}
    match scope.frame, scope.parent with
    | none, some p => frameScopeFrom s n p
    | _, _ => id

def frameScope (s : Store) (scope : Nat) : Nat := s.frameScopeFrom (s.scopes.size + 1) scope

def frame (s : Store) (scope : Nat) : Frame :=
  ((s.scopes.getD (s.frameScope scope) {}).frame).getD { this := some .undefined }

/-- Whether assignments that cannot be carried out are complaints. -/
def isStrict (s : Store) (scope : Nat) : Bool := (s.frame scope).isStrict

/-- What a hidden name stands for in a scope; the innermost class counts. -/
def hiddenName? (s : Store) (name : String) : Nat → Nat → Option HiddenName
  | 0, _ => none
  | n + 1, id =>
    let scope := s.scopes.getD id {}
    match scope.hidden.find? (·.name == name) with
    | some h => some h
    | none => scope.parent.bind (hiddenName? s name n)

/-- All hidden names of a scope and those around it. -/
def hiddenNames (s : Store) : Nat → Nat → List String
  | 0, _ => []
  | n + 1, id =>
    let scope := s.scopes.getD id {}
    scope.hidden.map (·.name) ++
      match scope.parent with
      | some p => hiddenNames s n p
      | none => []

/-- Gives up a scope that nothing can use any more. -/
def dropScope (id : Nat) (s : Store) : Store :=
  if id + 1 == s.scopes.size && ! (s.scopes.getD id {}).kept then
    { s with scopes := s.scopes.pop }
  else s

end Store

namespace Exec

def newScope (parent : Nat) (vars : Array Variable) (frame : Option Frame) : Exec Nat :=
  modifyGet fun s =>
    let id := s.scopes.size
    (id, { s with scopes := s.scopes.push { parent := some parent, vars, frame } })

/-- Runs something in a scope of its own. -/
def inScope {α : Type} (parent : Nat) (vars : Array Variable) (frame : Option Frame)
    (body : Nat → Exec α) : Exec α := do
  let id ← newScope parent vars frame
  leaving (body id) (·.dropScope id)

def keepScope (id : Nat) : Exec Unit := modify (·.modifyScope id fun x => { x with kept := true })

def uninitialized {α : Type} (name : String) : Exec α :=
  referenceError (name ++ " is not initialized")

def undefinedName {α : Type} (name : String) : Exec α := referenceError (name ++ " is not defined")

/-- The number of parameters of a function that is not strict, if all of them are mere names. Their
variables stand for the arguments. -/
def namedParameters? (function : Option Ref) : Exec (Option Nat) := do
  match function with
  | some f =>
    inspect f fun kind =>
      match kind with
      | .function { code := .mk info parameters none _, .. } =>
        let named := parameters.all fun
          | .item (.name _) none => true
          | _ => false
        if ! info.isStrict && named then some parameters.length else none
      | _ => none
  | none => return none

/-- The object that `arguments` stands for. -/
def argumentsObject (scope : Nat) (values : List Value) (function : Option Ref) : Exec Value := do
  let thrower : Property :=
    { slot := .accessor (.object Intrinsic.thrower.ref) (.object Intrinsic.thrower.ref),
      enumerable := false, configurable := false }
  let iterate ← getNamed Intrinsic.arrayPrototype.ref "values"
  let named ← namedParameters? function
  let twins := min values.length (named.getD 0)
  if 0 < twins then keepScope scope
  let vars ← read fun s => (s.scopes.getD scope {}).vars
  let items := values.toArray.mapIdx fun i v =>
    let now := if i < twins then (vars[i]?.bind (·.value)).getD v else v
    (Key.index i, Property.plain now)
  let callee :=
    match named, function with
    | some _, some f => Property.silent (.object f)
    | _, _ => thrower
  let others := #[(.ofString "callee", callee), (KnownSymbol.iterator.key, .silent iterate)]
  let r ← newObject
    { prototype := some Intrinsic.objectPrototype.ref
      kind := .arguments ((List.range twins).map fun i => (i, scope, i))
      properties := items ++ #[(lengthKey, .silent (.ofNat values.length))] ++ others }
  modify fun s =>
    (s.modifyScope scope fun x =>
      { x with
        vars := x.vars.mapIdx fun i v => if i < twins then { v with twin := some (r, i) } else v
        frame := x.frame.map fun f => { f with arguments := none } }).addVariable scope
      { name := "arguments", value := some (.object r) }
  return .object r

/-- Whether an object stands for a name: not if it keeps the name to itself. -/
def standsFor (r : Ref) (k : Key) : Exec Bool := do
  if ! (← has r k) then return false
  match ← get r KnownSymbol.unscopables.key with
  | .object hidden => return ! (← get hidden k).truth
  | _ => return true

/-- What a name means in a scope. Objects are asked in their turn. -/
def meaningWithin (name : String) : Nat → Nat → Exec Resolved
  | 0, _ => return .global
  | n + 1, scope => do
    match ← read (·.resolve scope name) with
    | .property r outside =>
      if ← standsFor r (.ofString name) then return .property r outside
      meaningWithin name n outside
    | found => return found

def meaning (scope : Nat) (name : String) : Exec Resolved := do
  match ← read (·.resolve scope name) with
  | .property .. => meaningWithin name ((← read (·.scopes.size)) + 1) scope
  | found => return found

def readGlobal (name : String) : Exec (Option Value) := do
  let k := Key.ofString name
  match ← read (·.search Intrinsic.global.ref k) with
  | .missing => return none
  | .found { slot := .data v _, .. } _ => return some v
  | _ => return some (← get Intrinsic.global.ref k)

/-- The value of a name by its meaning, if it has one. -/
def readResolved? (found : Resolved) (name : String) : Exec (Option Value) := do
  match found with
  | .variable id i =>
    match ← read fun s => (s.variableAt id i).bind (·.value) with
    | some v => return some v
    | none => uninitialized name
  | .arguments id values function => return some (← argumentsObject id values function)
  | .property r _ => return some (← getNamed r name)
  | .global => readGlobal name

/-- The value of a name, if it has a meaning. -/
def readName? (scope : Nat) (name : String) : Exec (Option Value) := do
  readResolved? (← meaning scope name) name

def readName (scope : Nat) (name : String) : Exec Value := do
  match ← readName? scope name with
  | some v => return v
  | none => undefinedName name

/-- Complains about what cannot be carried out, where that is not passed over. -/
def carryOut (scope : Nat) (refusal : Refusal) : Exec Unit := do
  if refusal.isSome && (← read (·.isStrict scope)) then ensure refusal

/-- Assigns a value to a name. -/
def writeName (scope : Nat) (name : String) (v : Value) : Exec Unit := do
  match ← meaning scope name with
  | .variable id i =>
    match ← read fun s => s.variableAt id i with
    | some { value := some _, constant, lenient, .. } =>
      if ! constant then modify (·.setVariable id i v)
      else if ! lenient then typeError ("'" ++ name ++ "' is read-only")
    | _ => uninitialized name
  | .arguments id values function =>
    let _ ← argumentsObject id values function
    modify (·.giveFirst id name v)
  | .property r _ => carryOut scope (← setFrom r (.ofString name) v (.object r))
  | .global =>
    let k := Key.ofString name
    match ← read (·.search Intrinsic.global.ref k) with
    | .missing =>
      if ← read (·.isStrict scope) then undefinedName name
      set Intrinsic.global.ref k v
    | _ => carryOut scope (← setFrom Intrinsic.global.ref k v (.object Intrinsic.global.ref))

/-- What `this` stands for. -/
def readThis (scope : Nat) : Exec Value := do
  match ← read fun s => (s.frame scope).this with
  | some v => return v
  | none => referenceError "this is not initialized"

/-- The variables of a block, which have no values yet. -/
def blockVariables (declared : List Declared) : Array Variable :=
  (declared.map fun d => { name := d.name, value := none, constant := d.constant }).toArray

end Exec

end CollectionRunner.Script
