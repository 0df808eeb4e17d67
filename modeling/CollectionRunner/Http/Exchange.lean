import CollectionRunner.Http.HeaderMap
import CollectionRunner.Http.Response
import CollectionRunner.Http.Validity
import CollectionRunner.Text.Utf8

namespace CollectionRunner.Http

/-- A request that passed every check, as it is handed to the client that sends it. -/
structure Outgoing where
  method : String
  url : Url
  headers : HeaderMap
  body : Option String
  deriving DecidableEq, Repr

/-- What the client of a network says of a request that it gave up. -/
inductive Fault where
  | builder (text : String)
  | timeout (text : String)
  | other (text : String)
  deriving DecidableEq, Repr

/-- The error that a client's fault is reported as. -/
def Fault.error : Fault → RequestError
  | .builder text => .build text
  | .timeout text => .transport ("timed out: " ++ text)
  | .other text => .transport text

/-- What the network makes of a request. -/
inductive Reply where
  /-- No response came; the flag tells whether time ran out. -/
  | lost (timedOut : Bool)
  /-- The client gave up on the way, say after too many redirects. -/
  | abandoned (fault : Fault)
  /-- A response with its status, its headers as bytes, and the text of its body, if that could be
  read, or else the reason why not. -/
  | received (status : Nat) (headers : List (String × List UInt8)) (body : Except String String)

/-- What a network answers to what it is sent, and what it does meanwhile. -/
abbrev Network (m : Type → Type := Id) := Outgoing → m Reply

/-- No request gets through. -/
def unreachable : Network := fun _ => .lost false

/-- The headers added to those gathered before, with their names in small letters; the first name or
value that may not be sent is an error. -/
def gather (before : HeaderMap) : List (String × String) → Except RequestError HeaderMap
  | [] => .ok before
  | (name, value) :: rest => do
    let some key := headerName? name
      | throw (.build ("invalid header name '" ++ name ++ "'"))
    if ! isHeaderValue value then throw (.build ("invalid value for header '" ++ key ++ "'"))
    gather (before.append key value) rest

/-- What is handed to the client, or the first fault in the order method, URL, headers. -/
def handed (r : SentRequest) : Except RequestError Outgoing := do
  if ! isMethod r.method then throw (.build ("invalid HTTP method " ++ r.method))
  let url ← match Url.parse r.url with
    | .ok url => pure url
    | .error e => throw (.build ("invalid URL '" ++ r.url ++ "': " ++ e.message))
  let headers ← gather .empty r.headers
  return ⟨r.method, url, headers, r.body⟩

/-- Why the client sends nothing, although it was handed a request: its target cannot be asked
for. -/
def Outgoing.refusal? (out : Outgoing) : Option RequestError :=
  let target := out.url.withoutCredentials
  if isTarget target then none
  else some (.build ("builder error for url (" ++ target.text ++ ")"))

/-- What goes out to the network, or the first fault: one of the request itself, or else the one
that the client finds. -/
def outgoing (r : SentRequest) : Except RequestError Outgoing := do
  let out ← handed r
  match out.refusal? with
  | some e => throw e
  | none => return out

/-- Headers with those of one name together, at the place of the first of them. -/
def grouped {α : Type} (headers : List (String × α)) : List (String × α) :=
  let names := headers.foldl (fun ns h => if ns.contains h.1 then ns else ns ++ [h.1]) []
  names.flatMap fun n => headers.filter (·.1 == n)

/-- What is said about a request that got no response. -/
def lostReason (url : Url) (timedOut : Bool) : String :=
  let text := "error sending request for url (" ++ url.withoutCredentials.text ++ ")"
  if timedOut then "timed out: " ++ text else text

/-- The response that a reply makes. -/
def Reply.response (request : SentRequest) (url : Url) (elapsed : Nat) : Reply → Response
  | .lost timedOut => .failed request (.transport (lostReason url timedOut)) elapsed
  | .abandoned fault => .failed request fault.error elapsed
  | .received status headers body =>
    { statusCode := status
      status := statusLine status
      headers := (grouped headers).map fun (n, v) => (n, Text.lossy v)
      body := body.toOption.getD ""
      elapsed, request
      error := match body with
        | .ok _ => none
        | .error reason => some (.body reason) }

/-- Performs a prepared request; nothing is sent when it fails a check. -/
def perform {m : Type → Type} [Monad m] (network : Network m) (elapsed : Nat)
    (request : SentRequest) : m Response :=
  match outgoing request with
  | .error e => return .failed request e elapsed
  | .ok out => do
    let reply ← network out
    return reply.response request out.url elapsed

/-- Resolves a request with the variables in effect and performs it. -/
def execute {m : Type → Type} [Monad m] (network : Network m) (elapsed : Nat) (r : Request)
    (s : Snapshot) : m Response :=
  perform network elapsed (prepare r s)

/-- Performs a request with a client made for it alone. That there is none is reported like any
other fault in what is sent. -/
def executeAlone {m : Type → Type} [Monad m] (client : Except String (Network m)) (elapsed : Nat)
    (r : Request) (s : Snapshot) : m Response :=
  match client with
  | .error reason =>
    return .failed (prepare r s) (.build ("creating HTTP client: " ++ reason)) 0
  | .ok network => execute network elapsed r s

end CollectionRunner.Http
