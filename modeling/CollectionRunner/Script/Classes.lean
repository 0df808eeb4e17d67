import CollectionRunner.Script.Evaluate

namespace CollectionRunner.Script

namespace ClassMember

/-- The hidden name that a member declares, and what for. -/
def hiddenName? : ClassMember → Option (String × HiddenKind)
  | .method _ (.hidden s) f =>
    match f.info.role with
    | .getter => some (s, .getter)
    | .setter => some (s, .setter)
    | _ => some (s, .method)
  | .field _ (.hidden s) _ => some (s, .field)
  | _ => none

/-- The hidden names of a class; one that is declared for reading and for writing counts once. -/
def hiddenNames (members : List ClassMember) : List (String × HiddenKind) :=
  (members.filterMap (·.hiddenName?)).foldl
    (fun names (s, kind) =>
      if names.any (·.1 == s) then
        names.map fun (t, k) => if t == s then (t, .accessor) else (t, k)
      else names ++ [(s, kind)]) []

end ClassMember

/-- The constructor of a class that does not say any: it hands on its arguments to its parent. -/
def plainMaker (derived : Bool) : Function :=
  if derived then
    .mk { name := "", role := .derivedConstructor, parameters := ["args"] } [] (some (.name "args"))
      (.mk [] [] [.return (some (.superCall [.spread (.name "args")] {}))])
  else .mk { name := "", role := .constructor } [] none (.mk [] [] [])

namespace Exec

def newSymbol (description : Option Units) : Exec Nat :=
  modifyGet fun s => (s.symbols.size, { s with symbols := s.symbols.push description })

/-- The prototypes that a class's prototype and the class itself get from its parent. -/
def heritageOf (scope : Nat) (heritage : Option Expr) : Exec (Option Ref × Ref) := do
  match heritage with
  | none => return (some Intrinsic.objectPrototype.ref, Intrinsic.functionPrototype.ref)
  | some e =>
    match ← eval scope e with
    | .null => return (none, Intrinsic.functionPrototype.ref)
    | .object r =>
      if ! (← isConstructor (.object r)) then typeError "parent class must be constructor"
      match ← getNamed r "prototype" with
      | .object p => return (some p, r)
      | .null => return (none, r)
      | _ => typeError "parent prototype must be an object or null"
    | _ => typeError "parent class must be constructor"

def modifyClosure (r : Ref) (f : Closure → Closure) : Exec Unit :=
  modify (·.modifyObj r fun o =>
    match o.kind with
    | .function c => { o with kind := .function (f c) }
    | _ => o)

/-- One more side of a hidden accessor, or a hidden method. -/
def mergeHidden (id : Nat) (role : FunctionRole) (v : Value) :
    List (Nat × Slot) → List (Nat × Slot)
  | [] =>
    [(id, match role with
      | .getter => .accessor v .undefined
      | .setter => .accessor .undefined v
      | _ => .data v false)]
  | (i, slot) :: rest =>
    if i == id then
      (id, match slot, role with
        | .accessor _ w, .getter => .accessor v w
        | .accessor r _, .setter => .accessor r v
        | _, _ => slot) :: rest
    else (i, slot) :: mergeHidden id role v rest

/-- What is left to do for the class itself when all its members are defined. -/
inductive Later where
  | field (f : Field)
  | block (f : Ref)

def fieldOf (scope : Nat) (home : Ref) (name : PropertyName) (init : Option Function) :
    Exec Field := do
  let k ← propertyKey scope name
  let place : Place :=
    match name, k with
    | .hidden _, .symbol id => .hidden id
    | _, _ => .key k
  match init with
  | none => return { place, value := none }
  | some f =>
    let f ←
      match name, f with
      | .computed _, .mk info ps rest (.mk ds fs [.return (some e)]) =>
        if e.isAnonymous then
          let own := (← nameOfKey k).lossyString
          pure (Function.mk info ps rest (.mk ds fs [.return (some (e.named own))]))
        else pure f
      | _, _ => pure f
    return { place, value := (← makeFunction scope f (some home)).ref? }

/-- Defines the members of a class, and gives what is left to do for the class itself. -/
def defineMembers (scope : Nat) (class' prototype : Ref) : List ClassMember → List Later →
    Exec (List Later)
  | [], later => return later.reverse
  | .method isStatic name f :: rest, later => do
    let home := if isStatic then class' else prototype
    let k ← propertyKey scope name
    let v ← makeMethod scope home f name k
    match name, k with
    | .hidden _, .symbol id =>
      if isStatic then
        modify (·.modifyObj class' fun o =>
          { o with hidden := (mergeHidden id f.info.role v o.hidden.toList).toArray })
      else
        modifyClosure class' fun c =>
          { c with hiddenMethods := mergeHidden id f.info.role v c.hiddenMethods }
    | _, _ => ensure (← define home k (methodDescriptor f.info.role v false))
    defineMembers scope class' prototype rest later
  | .field isStatic name init :: rest, later => do
    let field ← fieldOf scope (if isStatic then class' else prototype) name init
    if isStatic then defineMembers scope class' prototype rest (.field field :: later)
    else
      modifyClosure class' fun c => { c with fields := c.fields ++ [field] }
      defineMembers scope class' prototype rest later
  | .staticBlock f :: rest, later => do
    match ← makeFunction scope f (some class') with
    | .object r => defineMembers scope class' prototype rest (.block r :: later)
    | _ => defineMembers scope class' prototype rest later

def finishClass (class' : Ref) (later : List Later) : Exec Unit :=
  forEach
    (fun
      | .block f => do
        let _ ← call (.object f) (.object class') []
      | .field f => do
        let v ←
          match f.value with
          | some init => call (.object init) (.object class') []
          | none => pure .undefined
        definePlace class' f.place v)
    later

def evalClass (outer : Nat) : Class → Exec Value
  | .mk binding name heritage maker members source at' => do
    let own : Array Variable :=
      match binding with
      | some s => #[{ name := s, value := none, constant := true }]
      | none => #[]
    inScope outer own none fun scope => do
      keepScope scope
      forEach
        (fun (name, kind) => do
          let id ← newSymbol (some (.ofString ("#" ++ name)))
          modify (·.modifyScope scope fun x => { x with hidden := ⟨name, id, kind⟩ :: x.hidden }))
        (ClassMember.hiddenNames members)
      let (protoParent, parent) ← heritageOf scope heritage
      let prototype ← newObject { prototype := protoParent }
      let code :=
        match maker.getD (plainMaker heritage.isSome) with
        | .mk info ps rest body =>
          let file := if info.file = "" then at'.1 else info.file
          let start := if info.file = "" then at'.2 else info.start
          Function.mk { info with name, source, file, start } ps rest body
      match ← makeFunction scope code (some prototype) with
      | .object r =>
        modify fun s =>
          ((s.modifyObj r fun o => { o with prototype := some parent }).putOwn r
            (.ofString "prototype") (.fixed (.object prototype))).putOwn prototype
            (.ofString "constructor") (.silent (.object r))
        let later ← defineMembers scope r prototype members []
        match binding with
        | some s => modify (·.giveFirst scope s (.object r))
        | none => pure ()
        finishClass r later
        return .object r
      | v => return v

end Exec

end CollectionRunner.Script
