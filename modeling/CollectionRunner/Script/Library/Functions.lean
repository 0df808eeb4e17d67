import CollectionRunner.Script.Library.Entry

namespace CollectionRunner.Script.Library

open Exec

def nativeText (name : Units) : Units :=
  .ofString "function " ++ name ++ .ofString "() \x7b\n    [native code]\n\x7d"

/-- The text of a function. -/
def functionText (this : Value) (_ : List Value) : Exec Value := do
  match this with
  | .object r =>
    match ← kindOf r with
    | .function c => return .text (.ofString c.code.info.source)
    | _ =>
      if ! (← isCallable this) then typeError "not a function"
      match ← getNamed r "name" with
      | .undefined => return .text (nativeText #[])
      | name => return .text (nativeText (← toUnits name))
  | _ => typeError "not a function"

def bindFunction (this : Value) (args : List Value) : Exec Value := do
  let f ← callback this
  match f with
  | .object r =>
    let given := args.length - 1
    let length ←
      match ← getOwn r lengthKey with
      | some _ =>
        match ← get r lengthKey with
        | .number x =>
          if x.isInf then pure (if x > 0 then x else 0)
          else pure (natFloat (clampNat x mostLength - given))
        | _ => pure 0
      | none => pure 0
    let name ←
      match ← getNamed r "name" with
      | .text u => pure u
      | _ => pure #[]
    let p ← prototypeOf r
    let b ← newObject
      { prototype := p
        kind := .bound r (nth args 0) (args.drop 1)
        properties := #[(lengthKey, .told (.number length)),
          (.ofString "name", .told (.text (.ofString "bound " ++ name)))] }
    return .object b
  | _ => typeError "not a function"

/-- A function made from the texts of its parameters and its body. -/
def functionOfTexts (isAsync isGenerator : Bool) (args : List Value) (newTarget : Value) :
    Exec Value := do
  let texts ← mapEach toUnits args []
  let parameters := (texts.dropLast.intersperse (.ofString ",")).foldl (· ++ ·) #[]
  let head := "(" ++ (if isAsync then "async " else "") ++ "function" ++
    (if isGenerator then "*" else "") ++ " anonymous("
  let text := Units.ofString head ++ parameters ++ Units.ofString "\n) \x7b\n" ++
    texts.getLast?.getD #[] ++ Units.ofString "\n\x7d)"
  let f ← evalApart (.text text)
  match f, newTarget with
  | .object r, .object _ =>
    let i : FunctionInfo := { name := "", isAsync, isGenerator }
    let p ← prototypeFor newTarget (functionPrototype i)
    ensure (← setPrototype r (some p))
  | _, _ => pure ()
  return f

/-- The constructor of the functions of one kind. -/
def functionMaker (name : String) (prototype : Intrinsic) (isAsync isGenerator : Bool) :
    Constructor :=
  { name, length := 1, prototype := some prototype
    call := fun args => functionOfTexts isAsync isGenerator args .undefined
    construct := functionOfTexts isAsync isGenerator }

/-- What is known of a function of a script. -/
def aboutFunction (f : FunctionInfo → Value) : Code := fun this _ => do
  match this with
  | .object r => inspect r fun
    | .function c => f c.code.info
    | _ => .undefined
  | _ => return .undefined

def functionConstructor : Constructor :=
  { functionMaker "Function" .functionPrototype false false with
    place := some .functionConstructor
    methods := [
      .method "call" 1 fun this args => do call (← callback this) (nth args 0) (args.drop 1),
      .method "apply" 2 fun this args => do
        let f ← callback this
        match nth args 1 with
        | .undefined | .null => call f (nth args 0) []
        | .object r => call f (nth args 0) (← listOf r)
        | _ => typeError "not a object",
      .method "bind" 1 bindFunction,
      .method "toString" 0 functionText,
      .symbolMethod .hasInstance "[Symbol.hasInstance]" 1 fun this args => do
        return .bool (← hasInstance (nth args 0) this),
      .getter "fileName" (aboutFunction fun i => .ofString i.file),
      .getter "lineNumber" (aboutFunction fun i => .ofNat i.start.line),
      .getter "columnNumber" (aboutFunction fun i => .ofNat i.start.column),
      .forbidden "caller", .forbidden "arguments"] }

/-- The constructors of functions that wait or yield, which have no global names. -/
def functionMakers : List Constructor :=
  let inner (name : String) (i : Intrinsic) (isAsync isGenerator : Bool)
      (generators : List Intrinsic) : Constructor :=
    { functionMaker name i isAsync isGenerator with
      parent := some .functionConstructor, isGlobal := false, constructorProperty := .told
      methods := .tag name :: generators.map fun g => .told "prototype" (.object g.ref) }
  [inner "GeneratorFunction" .generatorFunctionPrototype false true [.generatorPrototype],
   inner "AsyncFunction" .asyncFunctionPrototype true false [],
   inner "AsyncGeneratorFunction" .asyncGeneratorFunctionPrototype true true
     [.asyncGeneratorPrototype]]

/-- What an error tells of the calls under way, from the one on that `drops` leaves. -/
def traceFrom (drops : Store → List Call) : Exec Value :=
  read fun s => .text (s.trace (drops s) s.traceLines)

/-- What constructing an error does: it takes a message and the cause from its options, and the
errors that it sums up, if it does. -/
def constructError (prototype : Intrinsic) (sums : Bool) (args : List Value) (newTarget : Value) :
    Exec Value := do
  let p ← prototypeFor newTarget prototype
  let r ← newObject { prototype := some p, kind := .error }
  let put (name : String) (v : Value) : Exec Unit :=
    modify (·.putOwn r (.ofString name) (.silent v))
  let given := if sums then args.drop 1 else args
  if ! (nth given 0).isUndefined then
    let u ← toUnits (nth given 0)
    put "message" (.text u)
  match nth given 1 with
  | .object options =>
    if ← has options (.ofString "cause") then
      let cause ← getNamed options "cause"
      put "cause" cause
  | _ => pure ()
  if sums then
    let errors ← newArray (← valuesOf (nth args 0))
    put "errors" errors
  let stack ← traceFrom fun s => s.calls.drop 1
  put "stack" stack
  return .object r

def errorText (this : Value) (_ : List Value) : Exec Value := do
  match this with
  | .object r =>
    let name ← getNamed r "name"
    let name ← if name.isUndefined then pure (Units.ofString "Error") else toUnits name
    let message ← getNamed r "message"
    let message ← if message.isUndefined then pure #[] else toUnits message
    if name.isEmpty then return .text message
    if message.isEmpty then return .text name
    return .text (name ++ .ofString ": " ++ message)
  | _ => typeError "not an object"

/-- Tells an object of the calls under way, all but those up to the call of a given function. -/
def captureStack (target filter : Value) : Exec Value := do
  match target with
  | .object r =>
    let isFilter (c : Call) : Bool := (c.function.map fun f => filter.same (.object f)).getD false
    let stack ← traceFrom fun s => (if s.calls.any isFilter then s.calls.dropWhile (! isFilter ·)
      else s.calls).drop 1
    ensure (← define r (.ofString "stack") (.ofProperty (.silent stack)))
    return .undefined
  | _ => typeError "not an object"

def kindOfError (name : String) (prototype : Intrinsic) : Constructor :=
  let sums := name == "AggregateError"
  { name, length := if sums then 2 else 1, prototype := some prototype, parent := some .errorConstructor
    call := fun args => constructError prototype sums args .undefined
    construct := constructError prototype sums
    methods := [.field "name" (.ofString name), .field "message" (.text #[])] }

def errorConstructor : Constructor :=
  { kindOfError "Error" .errorPrototype with
    parent := none
    place := some .errorConstructor
    own := [
      .method "isError" 1 fun _ args => do
        match nth args 0 with
        | .object r => inspect r fun
          | .error => .bool true
          | _ => .bool false
        | _ => return .bool false,
      .method "captureStackTrace" 2 fun _ args => captureStack (nth args 0) (nth args 1),
      .accessor "stackTraceLimit"
        (fun _ _ => read (·.traceLimit))
        (fun _ args => do
          modify fun s => { s with traceLimit := nth args 0 }
          return .undefined)]
    methods := [.method "toString" 0 errorText, .field "name" (.ofString "Error"),
      .field "message" (.text #[])] }

def errorConstructors : List Constructor :=
  [errorConstructor,
   kindOfError "EvalError" .evalErrorPrototype,
   kindOfError "RangeError" .rangeErrorPrototype,
   kindOfError "ReferenceError" .referenceErrorPrototype,
   kindOfError "SyntaxError" .syntaxErrorPrototype,
   kindOfError "TypeError" .typeErrorPrototype,
   kindOfError "URIError" .uriErrorPrototype,
   kindOfError "InternalError" .internalErrorPrototype,
   kindOfError "AggregateError" .aggregateErrorPrototype]

def thisSymbol (this : Value) : Exec Nat := do
  match this with
  | .symbol id => return id
  | .object r =>
    match ← kindOf r with
    | .boxed (.symbol id) => return id
    | _ => typeError "not a symbol"
  | _ => typeError "not a symbol"

def symbolText (id : Nat) : Exec Units := do
  let u ← read fun s => (s.symbols.getD id none).getD #[]
  return .ofString "Symbol(" ++ u ++ .ofString ")"

def symbolConstructor : Constructor :=
  { name := "Symbol", length := 0, prototype := some .symbolPrototype
    call := fun args => do
      let description ← if (nth args 0).isUndefined then pure none
        else pure (some (← toUnits (nth args 0)))
      return .symbol (← newSymbol description)
    construct := notConstructor
    own := KnownSymbol.all.map (fun s => .constant s.name (.symbol s.ctorIdx)) ++ [
      .method "for" 1 fun _ args => do
        let u ← toUnits (nth args 0)
        match ← read fun s => s.shared.find? (·.1 == u) with
        | some (_, id) => return .symbol id
        | none =>
          let id ← newSymbol (some u)
          modify fun s => { s with shared := s.shared.push (u, id) }
          return .symbol id,
      .method "keyFor" 1 fun _ args => do
        match nth args 0 with
        | .symbol id =>
          match ← read fun s => s.shared.find? (·.2 == id) with
          | some (u, _) => return .text u
          | none => return .undefined
        | _ => typeError "not a symbol"]
    methods := [
      .method "toString" 0 fun this _ => do return .text (← symbolText (← thisSymbol this)),
      .method "valueOf" 0 fun this _ => do return .symbol (← thisSymbol this),
      .getter "description" fun this _ => do
        let id ← thisSymbol this
        return ((← read fun s => s.symbols.getD id none).map Value.text).getD .undefined,
      .symbolMethod .toPrimitive "[Symbol.toPrimitive]" 1 fun this _ => do
        return .symbol (← thisSymbol this),
      .tag "Symbol"] }

def thisTruth (this : Value) : Exec Bool := do
  match this with
  | .bool b => return b
  | .object r =>
    match ← kindOf r with
    | .boxed (.bool b) => return b
    | _ => typeError "not a boolean"
  | _ => typeError "not a boolean"

def booleanConstructor : Constructor :=
  { name := "Boolean", length := 1, prototype := some .booleanPrototype
    call := fun args => return .bool (nth args 0).truth
    construct := fun args newTarget => do
      let p ← prototypeFor newTarget .booleanPrototype
      return .object (← newObject
        { prototype := some p, kind := .boxed (.bool (nth args 0).truth) })
    methods := [
      .method "toString" 0 fun this _ => do
        return .ofString (if ← thisTruth this then "true" else "false"),
      .method "valueOf" 0 fun this _ => do return .bool (← thisTruth this)] }

end CollectionRunner.Script.Library
