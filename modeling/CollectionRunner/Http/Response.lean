import CollectionRunner.Http.Preparation
import CollectionRunner.Decimal.Notation

namespace CollectionRunner

/-- Why a request has no complete response. -/
inductive RequestError where
  | build (reason : String)
  | transport (reason : String)
  | body (reason : String)
  deriving DecidableEq, Repr

def RequestError.message : RequestError → String
  | .build reason => "invalid request: " ++ reason
  | .transport reason => "request failed: " ++ reason
  | .body reason => "request failed: reading response body: " ++ reason

/-- The result of one exchange. Its time is in nanoseconds. -/
structure Response where
  statusCode : Nat := 0
  status : String := ""
  headers : List (String × String) := []
  body : String := ""
  elapsed : Nat := 0
  request : SentRequest := {}
  error : Option RequestError := none
  deriving DecidableEq, Repr

namespace Response

/-- The response of a request that got none. -/
def failed (request : SentRequest) (error : RequestError) (elapsed : Nat) : Response :=
  { elapsed, request, error := some error }

def header? (r : Response) (name : String) : Option String := firstHeader? r.headers name

/-- Every value of a header, in the order received. -/
def headerValues (r : Response) (name : String) : List String :=
  (r.headers.filter fun h => sameName h.1 name).map (·.2)

/-- The status line after its first space. -/
def reason (r : Response) : String :=
  String.ofList ((r.status.toList.dropWhile (· ≠ ' ')).drop 1)

/-- The time in milliseconds: whole seconds and the rest are added first, then scaled. -/
def milliseconds (r : Response) : Float :=
  ((r.elapsed / 1000000000).toFloat + (r.elapsed % 1000000000).toFloat / 1000000000.0) * 1000.0

end Response

end CollectionRunner
