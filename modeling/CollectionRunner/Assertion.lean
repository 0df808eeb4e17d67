import CollectionRunner.Http.Response
import CollectionRunner.Json.Path
import CollectionRunner.Json.Match
import CollectionRunner.Json.Reader

namespace CollectionRunner

/-- Why a check fails. -/
inductive AssertionError where
  | invalidJson (reason : String)
  | path (e : Json.PathError)
  | mismatch (subject expected actual : String)
  | missingHeader (name : String)
  deriving DecidableEq, Repr

def AssertionError.message : AssertionError → String
  | .invalidJson reason => "failed to parse JSON: " ++ reason
  | .path e => e.message
  | .mismatch subject expected actual =>
    "expected " ++ subject ++ " to be " ++ expected ++ " but got " ++ actual
  | .missingHeader name => "expected response to have header '" ++ name ++ "'"

/-- A status that is asked for by its code or by a text. -/
inductive StatusExpectation where
  | code (n : Nat)
  | text (s : String)
  deriving DecidableEq, Repr

namespace Response

def statusMismatch (r : Response) (expected : String) : AssertionError :=
  .mismatch "response status" expected (toString r.statusCode)

/-- A text that is a number means a code, any other one the reason or the whole status line. -/
def hasStatus (r : Response) : StatusExpectation → Bool
  | .code n => r.statusCode == n
  | .text s =>
    match Text.natBelow? (Nat.pow 2 16) (Text.trim s) with
    | some n => r.statusCode == n
    | none => sameName r.reason s || r.status == s

def assertStatus (r : Response) (expected : StatusExpectation) : Except AssertionError Unit :=
  if r.hasStatus expected then .ok ()
  else .error (r.statusMismatch (match expected with
    | .code n => toString n
    | .text s => s))

/-- The header is there and, if a value is expected, one of its values is that one. -/
def assertHeader (r : Response) (name : String) (expected : Option String) :
    Except AssertionError Unit :=
  match r.header? name with
  | none => .error (.missingHeader name)
  | some first =>
    match expected with
    | none => .ok ()
    | some value =>
      if (r.headerValues name).contains value then .ok ()
      else .error (.mismatch ("header '" ++ name ++ "'") value first)

def assertOk (r : Response) : Except AssertionError Unit :=
  if 200 ≤ r.statusCode ∧ r.statusCode < 300 then .ok () else .error (r.statusMismatch "2xx")

def assertClientError (r : Response) : Except AssertionError Unit :=
  if 400 ≤ r.statusCode ∧ r.statusCode < 500 then .ok () else .error (r.statusMismatch "4xx")

end Response

/-- The path leads to a part of the value and, if one is expected, to a part that matches it. -/
def assertPath (root : Json.Value) (path : String) (expected : Option Json.Value) :
    Except AssertionError Unit :=
  match Json.lookup root path with
  | .error e => .error (.path e)
  | .ok actual =>
    match expected with
    | none => .ok ()
    | some v =>
      if actual.similar v then .ok ()
      else .error (.mismatch ("'" ++ path ++ "'") v.naturalText actual.naturalText)

/-- The body is JSON, and a path in it leads where it should. -/
def assertJsonPath (body path : String) (expected : Option Json.Value) :
    Except AssertionError Unit :=
  match Json.parse body with
  | .error f => .error (.invalidJson f.message)
  | .ok root => assertPath root path expected

end CollectionRunner
