import CollectionRunner.Script.Library.Start
import CollectionRunner.Assertion

namespace CollectionRunner.Script.Host

open Exec Library

/-- A function of the host that wants a number of arguments at least. -/
def wanting (least : Nat) (code : List Value → Exec Value) : Code := fun _ args => do
  if args.length < least then
    typeError ("Error calling function with " ++ toString args.length ++
      " argument(s) while " ++ toString least ++ " where expected")
  code args

/-- The text of a value as the host takes it: half a pair of units has no place in it. -/
def hostText (v : Value) : Exec String := do
  match Units.decode (← toUnits v) with
  | .ok s => return s
  | .error i =>
    typeError ("Conversion from string failed: invalid utf-8 sequence of 1 bytes from index " ++
      toString i)

def optionalText (s : Option String) : Value := (s.map Value.ofString).getD .undefined

/-- Throws an error of the host. -/
def hostError {α : Type} (message : String) : Exec α := do
  let r ← newObject
    { prototype := some Intrinsic.errorPrototype.ref, kind := .error,
      properties := #[(.ofString "message", .plain (.ofString message))] }
  throwValue (.object r)

def orThrow : Except AssertionError Unit → Exec Value
  | .ok () => return .undefined
  | .error e => hostError e.message

def response : Exec Response := return (← read (·.response)).getD {}

def shownText (u : Units) : Option String := u.toString?

/-- Whether a value is shown as JSON if possible: an object that is no function and no error. -/
def isDocument (v : Value) : Exec Bool := do
  match v with
  | .object r =>
    if ← isCallable v then return false
    match ← kindOf r with
    | .error => return false
    | _ => return true
  | _ => return false

def displayValue (v : Value) : Exec String := do
  let text := match v with
    | .text u => shownText u
    | _ => none
  display text (← isDocument v)
    (do return (← stringify v .undefined .undefined).bind shownText)
    (do return shownText (← toUnits v))

/-- Describes what was thrown: an error by its message and its name, anything else by showing it. -/
def describeThrown (v : Value) : Exec String := do
  match v with
  | .object r =>
    match ← kindOf r with
    | .error =>
      describeException
        (do
          let m ← getNamed r "message"
          if m.isNullish then return none
          return shownText (← toUnits m))
        (do
          match ← getNamed r "name" with
          | .text u => return shownText u
          | _ => return none)
    | _ => displayValue v
  | _ => displayValue v

def testCode : Code := fun _ args => do
  let name := match nth args 0 with
    | .text u => shownText u
    | _ => none
  let f := nth args 1
  let callback ← if ← isCallable f then
      pure (some (do
        let _ ← call f .undefined []
        return ()))
    else pure none
  test name callback describeThrown
  return .undefined

def setCode (scope : VariableScope) : Code := wanting 1 fun args => do
  let key ← hostText (nth args 0)
  let value ← hostText (nth args 1)
  setVariable ⟨scope, key, value⟩
  return .undefined

def getCode (scopes : List VariableScope) : Code := wanting 1 fun args => do
  let key ← hostText (nth args 0)
  first key scopes
where
  /-- The value in the first scope that has one. -/
  first (key : String) : List VariableScope → Exec Value
    | [] => return .undefined
    | scope :: rest => do
      match ← getVariable scope key with
      | some s => return .ofString s
      | none => first key rest

def jsonCode : Code := wanting 0 fun _ => do
  let r ← response
  match Json.parse r.body with
  | .error f => hostError (AssertionError.invalidJson f.message).message
  | .ok _ => parseText (.ofString r.body)

/-- A status as a script asks for it: a number is cut to sixteen bits. -/
def statusNumber (x : Float) : Nat := x.toUInt16.toNat

def statusCode : Code := wanting 1 fun args => do
  let expected ←
    match nth args 0 with
    | .number x => pure (StatusExpectation.code (statusNumber x))
    | v => pure (StatusExpectation.text (← hostText v))
  orThrow ((← response).assertStatus expected)

def headerCode : Code := wanting 1 fun args => do
  let name ← hostText (nth args 0)
  let expected ← if (nth args 1).isUndefined then pure none
    else pure (some (← hostText (nth args 1)))
  orThrow ((← response).assertHeader name expected)

/-- A value that a script expects somewhere in a body; values that have no JSON text stand for
none. -/
def expectedValue (v : Value) : Exec (Option Json.Value) := do
  if v.isUndefined then return none
  match ← stringify v .undefined .undefined with
  | none => return none
  | some u =>
    match Json.parse (← hostText (.text u)) with
    | .ok j => return some j
    | .error f => hostError ("unsupported expected value: " ++ f.message)

def jsonBodyCode : Code := wanting 1 fun args => do
  let path ← hostText (nth args 0)
  let expected ← expectedValue (nth args 1)
  orThrow (assertJsonPath (← response).body path expected)

def verdict (check : Response → Except AssertionError Unit) : Code := fun _ _ => do
  let _ ← orThrow (check (← response))
  return .bool true

/-- The value of a header, if the response has it. -/
def headerValueCode : Code := wanting 1 fun args => do
  let name ← hostText (nth args 0)
  return optionalText ((← response).header? name)

/-- Whether the response has a header. -/
def headerPresenceCode : Code := wanting 1 fun args => do
  let name ← hostText (nth args 0)
  return .bool ((← response).header? name).isSome

/-- Gives an object a property for each header, named in lower case, unless the object has one of
that name, be it from its prototype. -/
def addHeaders (o : Ref) : List (String × String) → Exec Unit
  | [] => return ()
  | (name, value) :: rest => do
    let key := Key.ofString name.toLower
    if ! (← has o key) then set o key (.ofString value)
    addHeaders o rest

def headersCode : Code := wanting 0 fun _ => do
  let r ← response
  let o ← emptyObject
  addHeaders o r.headers
  return .object o

def printCode (level : Level) : Code := fun _ args => do
  let shown ← mapEach displayValue args []
  log level (String.intercalate " " shown)
  return .undefined

/-- A part of the host: a function, a property that is computed, or an object of further parts. -/
inductive Part where
  | function (name : String) (length : Nat) (code : Code)
  | computed (name : String) (code : Code)
  | value (name : String) (v : Value)

/-- Gives an object a part. -/
def addPart (r : Ref) (b : Building) : Part → Building
  | .function name length code =>
    let (f, b) := b.addFunction "" length code
    b.giveNamed r name (.plain f)
  | .computed name code =>
    let (f, b) := b.addFunction "" 0 code
    b.giveNamed r name { slot := .accessor f .undefined, enumerable := false, configurable := false }
  | .value name v => b.giveNamed r name (.plain v)

def addParts (r : Ref) (parts : List Part) (b : Building) : Building := parts.foldl (addPart r) b

/-- Adds an object of the given parts. -/
def newPart (parts : List Part) (b : Building) : Value × Building :=
  (.object b.next,
    addParts b.next parts (b.add { prototype := some Intrinsic.objectPrototype.ref }))

def scopePart (scope : VariableScope) (reads : List VariableScope) : Building → Value × Building :=
  newPart [.function "get" 1 (getCode reads), .function "set" 1 (setCode scope)]

def addResponse (b : Building) : Building :=
  let (headers, b) := newPart
    [.function "get" 1 headerValueCode, .function "has" 1 headerPresenceCode,
     .function "toObject" 0 headersCode] b
  let (have', b) := newPart
    [.function "status" 1 statusCode, .function "header" 1 headerCode,
     .function "jsonBody" 1 jsonBodyCode] b
  let (be, b) := newPart
    [.computed "ok" (verdict (·.assertOk)), .computed "error" (verdict (·.assertClientError))] b
  let (target, b) := newPart [.value "have" have', .value "be" be] b
  addParts Intrinsic.answer.ref
    [.value "code" .undefined, .value "status" .undefined, .value "responseTime" .undefined,
     .function "text" 0 (fun _ _ => do return .ofString (← response).body),
     .function "json" 0 jsonCode, .value "headers" headers, .value "to" target] b

def addHost (b : Building) : Building :=
  let (environment, b) := scopePart .environment [.environment] b
  let (collection, b) := scopePart .collection [.collection] b
  let (vars, b) := scopePart .collection [.environment, .collection] b
  let b := addParts Intrinsic.suite.ref
    [.function "test" 0 testCode, .value "collectionVariables" collection,
     .value "environment" environment, .value "environmentVariables" environment,
     .value "variables" vars] b
  let (console, b) := newPart
    ([Level.log, .info, .warn, .error].map fun l => .function l.name 0 (printCode l))
    (addResponse b)
  addParts Intrinsic.global.ref
    [.value "pm" (.object Intrinsic.suite.ref), .value "console" console] b

/-- Everything that is there when a script begins. -/
def beginning : Beginning := (addHost language).finished

/-- Shows a response to the script. -/
def showResponse (r : Response) (s : Store) : Store :=
  let put (name : String) (v : Value) (s : Store) : Store :=
    s.putOwn Intrinsic.answer.ref (.ofString name) (.plain v)
  let s := put "code" (.ofNat r.statusCode) s
  let s := put "status" (.ofString r.status) s
  let s := put "responseTime" (.number r.milliseconds) s
  { s.putOwn Intrinsic.suite.ref (.ofString "response") (.plain (.object Intrinsic.answer.ref)) with
    response := some r }

end CollectionRunner.Script.Host
