import CollectionRunner.Scope

namespace CollectionRunner

/-- A request as it is sent. -/
structure SentRequest where
  method : String := ""
  url : String := ""
  headers : List (String × String) := []
  body : Option String := none
  deriving DecidableEq, Repr

/-- Whether two header names are equal up to the case of ASCII letters. -/
def sameName (a b : String) : Bool := a.toLower == b.toLower

/-- The value of the first header with the given name. -/
def firstHeader? (headers : List (String × String)) (name : String) : Option String :=
  (headers.find? fun h => sameName h.1 name).map (·.2)

def SentRequest.header? (r : SentRequest) (name : String) : Option String :=
  firstHeader? r.headers name

def QueryParameter.text (q : QueryParameter) : String := q.key ++ "=" ++ q.value

/-- The raw address when it has one, else the one that its parts make. -/
def Address.effective (a : Address) : String :=
  if a.raw ≠ "" || a.host.isEmpty then a.raw
  else
    let query := (a.query.filter (! ·.disabled)).map QueryParameter.text
    "https://" ++ String.intercalate "." a.host ++ "/" ++ String.intercalate "/" a.path ++
      (if query.isEmpty then "" else "?" ++ String.intercalate "&" query)

/-- The method in capitals, `GET` when there is none. -/
def Request.effectiveMethod (r : Request) : String :=
  let method := Text.trim r.method
  if method = "" then "GET" else method.toUpper

/-- What is sent for a request, given the variables in effect. -/
def prepare (r : Request) (s : Snapshot) : SentRequest where
  method := r.effectiveMethod
  url := s.resolve r.address.effective
  headers := (r.headers.filter (! ·.disabled)).map fun h => (h.key, s.resolve h.value)
  body := (r.body.bind Body.payload?).map s.resolve

end CollectionRunner
