import CollectionRunner.Script.Calls
import CollectionRunner.Script.Grammar.Statements

namespace CollectionRunner.Script.Exec

/-- Gives the names of a script to the global object, unless it has them. -/
def declareGlobals (configurable : Bool) (names : List String) : Exec Unit :=
  forEach
    (fun name => do
      let k := Key.ofString name
      let r := Intrinsic.global.ref
      match ← read (·.own? r k) with
      | some _ => return ()
      | none => modify (·.putOwn r k { slot := .data .undefined true, configurable }))
    names

def redeclaration {α : Type} (name : String) : Exec α :=
  syntaxError ("redeclaration of '" ++ name ++ "'")

/-- The names that a script declares must not be those of fixed properties of the global object. -/
def checkRedeclared (declared : List Declared) : Exec Unit :=
  forEach
    (fun d => do
      match ← read (·.own? Intrinsic.global.ref (.ofString d.name)) with
      | some p => if ! p.configurable then redeclaration d.name
      | none => return ())
    declared

/-- The global object must be able to have the variables and functions of a script, and none of them
may be a variable of an earlier script's own. -/
def checkDefinable (vars : List String) (functions : List Function) : Exec Unit :=
  forEach
    (fun name => do
      let global := Intrinsic.global.ref
      let isFunction := functions.any (·.info.name == name)
      let fine ←
        match ← read (·.own? global (.ofString name)) with
        | none => isExtensible global
        | some { slot := .data _ true, enumerable := true, .. } => pure true
        | some p => pure (p.configurable || ! isFunction)
      if ! fine then typeError ("cannot define variable '" ++ name ++ "'")
      if ← read fun s => (s.scopes.getD 0 {}).vars.any (·.name == name) then redeclaration name)
    vars

/-- Gives functions to the global object. -/
def declareGlobalFunctions (configurable : Bool) (scope : Nat) (functions : List Function) :
    Exec Unit :=
  forEach
    (fun f => do
      let v ← makeFunction scope f none
      let k := Key.ofString f.info.name
      let p : Property :=
        match ← read (·.own? Intrinsic.global.ref k) with
        | some p =>
          if p.configurable then { slot := .data v true, configurable }
          else { p with slot := .data v true }
        | none => { slot := .data v true, configurable }
      modify (·.putOwn Intrinsic.global.ref k p))
    functions

/-- Gives the names of a text to the call that evaluates it, or to the global object, unless it has
them. -/
def declareOutward (scope : Nat) (names : List String) : Exec Unit :=
  forEach
    (fun name => do
      if (← read fun s => s.outwardFrom name (s.scopes.size + 1) scope).isNone then
        if (← read (·.frame scope)).function.isSome then
          let id ← read (·.frameScope scope)
          modify (·.addVariable id { name, value := some .undefined })
        else declareGlobals true [name])
    names

/-- Counts the templates of a text that has been read. -/
def countSites (p : Program) : Exec Unit := modify fun s => { s with sites := p.sites }

/-- Runs a script in the outermost scope. -/
def runProgram (p : Program) : Exec Unit := do
  countSites p
  modify fun s => { s with calls := [⟨none, some p.file, {}⟩] }
  match p.body with
  | .mk declared functions body =>
    checkDefinable p.vars functions
    checkRedeclared declared
    declareGlobals false p.vars
    modify (·.modifyScope 0 fun x => { x with vars := x.vars ++ blockVariables declared })
    declareGlobalFunctions false 0 functions
    forEach (exec 0) body

/-- Reads a text that is to be evaluated. -/
def readText (u : Units) (around : Surroundings) : Exec Program := do
  let firstSite ← read (·.sites)
  match Program.ofString u.lossyString { around with file := "<input>", isText := true } firstSite with
  | .error (message, position) => sourceError "<input>" message position
  | .ok p =>
    countSites p
    return p

/-- Runs the statements of a text in a scope, and gives the value of the text. -/
def runText (scope : Nat) (body : List Statement) : Exec Value := do
  let before ← read (·.result)
  modify fun s => { s with result := .undefined }
  leaving
    (do
      deeper ⟨none, some "<input>", {}⟩ (forEach (exec scope) body)
      read (·.result))
    fun s => { s with result := before }

/-- What a text may make use of where it is evaluated. -/
def surroundings (scope : Nat) : Exec Surroundings := do
  let frame ← read (·.frame scope)
  let hidden ← read fun s => s.hiddenNames (s.scopes.size + 1) scope
  let role ←
    match frame.function with
    | some r => inspect r fun
        | .function c => c.code.info.role
        | _ => .plain
    | none => pure .plain
  return { isStrict := frame.isStrict, newTargetAllowed := frame.function.isSome,
           superAllowed := frame.home.isSome, superCallAllowed := role == .derivedConstructor,
           argumentsAllowed := role != .initializer, hidden }

/-- Evaluates a text within a scope. Its variables are its own if it is strict, and those of the call
around it otherwise. -/
def evalText (scope : Nat) (source : Value) : Exec Value := do
  match source with
  | .text u =>
    let p ← readText u (← surroundings scope)
    match p.body with
    | .mk declared functions body =>
      let vars : List Variable := p.vars.map fun s => { name := s, value := some .undefined }
      if ! p.isStrict then declareOutward scope p.vars
      let own := (if p.isStrict then vars.toArray else #[]) ++ blockVariables declared
      inScope scope own none fun scope => do
        if p.isStrict then hoistFunctions scope functions
        else forEach (giveOutward scope) functions
        runText scope body
  | _ => return source

/-- Evaluates a text apart from all that is around it: its variables are those of the global object,
unless it asks to be strict. -/
def evalApart (source : Value) : Exec Value := do
  match source with
  | .text u =>
    let p ← readText u { isStrict := false }
    let frame : Frame := { this := some (.object Intrinsic.global.ref), isStrict := p.isStrict }
    match p.body with
    | .mk declared functions body =>
      let vars : List Variable := p.vars.map fun s => { name := s, value := some .undefined }
      let own := (if p.isStrict then vars.toArray else #[]) ++ blockVariables declared
      inScope 0 own (some frame) fun scope => do
        if p.isStrict then hoistFunctions scope functions
        else
          checkDefinable p.vars functions
          declareGlobals true p.vars
          declareGlobalFunctions true scope functions
        runText scope body
  | _ => return source

end CollectionRunner.Script.Exec
