import CollectionRunner.Console.Report
import Mathlib.Data.List.Nodup

namespace CollectionRunner

namespace Http

section Grouped

variable {α : Type}

/-- The names of headers, each once. -/
theorem names_foldl (headers : List (String × α)) {start : List String} (h : start.Nodup) :
    let names := headers.foldl (fun ns h => if ns.contains h.1 then ns else ns ++ [h.1]) start
    names.Nodup ∧ ∀ n, n ∈ names ↔ n ∈ start ∨ n ∈ headers.map (·.1) := by
  induction headers generalizing start with
  | nil => simp [h]
  | cons header rest ih =>
    rw [List.foldl_cons]
    split
    case isTrue old =>
      obtain ⟨nodup, mem⟩ := ih h
      refine ⟨nodup, fun n => (mem n).trans ?_⟩
      have : header.1 ∈ start := by simpa using old
      grind
    case isFalse new =>
      have added : (start ++ [header.1]).Nodup := by
        rw [List.nodup_append]
        grind
      obtain ⟨nodup, mem⟩ := ih added
      refine ⟨nodup, fun n => (mem n).trans ?_⟩
      grind

theorem flatMap_only {names : List String} (h : names.Nodup) (name : String) (l : List α) :
    names.flatMap (fun n => if n == name then l else []) = if name ∈ names then l else [] := by
  induction names with
  | nil => rfl
  | cons n names ih =>
    obtain ⟨new, rest⟩ := List.nodup_cons.1 h
    rw [List.flatMap_cons, ih rest]
    by_cases hn : n = name
    · subst hn
      simp [new]
    · simp [hn, Ne.symm hn]

/-- Headers of one name keep their order. -/
theorem filter_grouped (headers : List (String × α)) (name : String) :
    (grouped headers).filter (·.1 == name) = headers.filter (·.1 == name) := by
  obtain ⟨nodup, mem⟩ := names_foldl headers List.nodup_nil
  have one (n : String) : (headers.filter (·.1 == n)).filter (·.1 == name) =
      if n == name then headers.filter (·.1 == name) else [] := by
    by_cases h : n = name
    · simp [h, List.filter_filter]
    · rw [if_neg (by simpa using h), List.filter_filter, List.filter_eq_nil_iff]
      grind
  unfold grouped
  rw [List.filter_flatMap]
  simp only [one]
  rw [flatMap_only nodup, ite_eq_left_iff]
  intro none
  rw [eq_comm, List.filter_eq_nil_iff]
  grind

end Grouped

/-- That it fails is a fault in what was to be sent. -/
def FailsToBuild {α : Type} (x : Except RequestError α) : Prop :=
  ∀ e, x = .error e → ∃ reason, e = .build reason

namespace FailsToBuild

variable {α β : Type}

theorem ok (a : α) : FailsToBuild (.ok a) := fun _ h => nomatch h

theorem build (reason : String) : FailsToBuild (.error (.build reason) : Except _ α) :=
  fun _ h => ⟨reason, (Except.error.inj h).symm⟩

theorem bind {x : Except RequestError α} {f : α → Except RequestError β} (hx : FailsToBuild x)
    (hf : ∀ a, FailsToBuild (f a)) : FailsToBuild (x >>= f) := by
  cases x with
  | error e =>
    obtain ⟨reason, rfl⟩ := hx e rfl
    exact build reason
  | ok a => exact hf a

end FailsToBuild

theorem failsToBuild_gather (before : HeaderMap) (headers : List (String × String)) :
    FailsToBuild (gather before headers) := by
  induction headers generalizing before with
  | nil => exact .ok before
  | cons header rest ih =>
    unfold gather
    cases headerName? header.1 with
    | none => exact .build _
    | some key =>
      cases isHeaderValue header.2 with
      | false => exact .build _
      | true => exact ih _

theorem failsToBuild_handed (request : SentRequest) : FailsToBuild (handed request) := by
  unfold handed
  cases isMethod request.method with
  | false => exact .build _
  | true =>
    cases Url.parse request.url with
    | error e => exact .build _
    | ok url => exact (failsToBuild_gather .empty request.headers).bind fun _ => .ok _

theorem Outgoing.refusal?_eq_some {out : Outgoing} {e : RequestError}
    (h : out.refusal? = some e) : ∃ reason, e = .build reason := by
  obtain ⟨-, found⟩ := Option.ite_none_left_eq_some.1 h
  exact ⟨_, (Option.some.inj found).symm⟩

theorem failsToBuild_outgoing (request : SentRequest) : FailsToBuild (outgoing request) := by
  refine (failsToBuild_handed request).bind fun out => ?_
  cases refused : out.refusal? with
  | some e =>
    obtain ⟨reason, rfl⟩ := Outgoing.refusal?_eq_some refused
    exact .build reason
  | none => exact .ok out

/-- The shapes of a response. -/
inductive Shape where
  | complete
  /-- No response came. -/
  | missing
  /-- The body could not be read. -/
  | broken

theorem lookup_reasons_iff {code : Nat} {reason : String} :
    reasons.lookup code = some reason ↔ (code, reason) ∈ reasons := by
  constructor
  · intro found
    obtain ⟨before, after, split, -⟩ := List.lookup_eq_some_iff.1 found
    rw [split]
    exact List.mem_append_right _ List.mem_cons_self
  · have each : ∀ p ∈ reasons, reasons.lookup p.1 = some p.2 := by decide +kernel
    exact fun mem => each _ mem

theorem statusLine_of_mem {code : Nat} {reason : String} (h : (code, reason) ∈ reasons) :
    statusLine code = toString code ++ " " ++ reason := by
  unfold statusLine
  rw [lookup_reasons_iff.2 h]

theorem statusLine_of_notMem {code : Nat} (h : ∀ reason, (code, reason) ∉ reasons) :
    statusLine code = toString code := by
  have none : reasons.lookup code = none :=
    Option.eq_none_iff_forall_ne_some.2 fun reason found => h reason (lookup_reasons_iff.1 found)
  unfold statusLine
  rw [none]

/-- A response tells the status that was received, and the values of every header in the order in
which they came. The line of the status is the code in decimal digits, and after it the usual reason
if the code has one. -/
structure Tells (response : Response) (status : Nat) (headers : List (String × List UInt8)) :
    Prop where
  nonzero : status ≠ 0
  code : response.statusCode = status
  line : ∀ reason, (status, reason) ∈ reasons →
    response.status = toString status ++ " " ++ reason
  bareLine : (∀ reason, (status, reason) ∉ reasons) → response.status = toString status
  headers (name : String) : response.headers.filter (·.1 == name) =
    (headers.filter (·.1 == name)).map fun (n, v) => (n, Text.lossy v)

/-- What a response of a shape holds, where the network has replied as given, if it was asked. -/
def Shape.Of (response : Response) (reply? : Option Reply) : Shape → Prop
  | .complete => ∃ status headers body, reply? = some (.received status headers (.ok body)) ∧
      Tells response status headers ∧ response.body = body ∧ response.error = none
  | .missing => (∀ status headers body, reply? ≠ some (.received status headers body)) ∧
      response.statusCode = 0 ∧ response.status = "" ∧ response.headers = [] ∧
      response.body = "" ∧
      ∃ reason, response.error = some (.build reason) ∨ response.error = some (.transport reason)
  | .broken => ∃ status headers reason,
      reply? = some (.received status headers (.error reason)) ∧ Tells response status headers ∧
      response.body = "" ∧ response.error = some (.body reason)

/-- A response answers a request: it has exactly one shape, and of those with an error only one
without a body shows a status, also in a report. -/
structure Answers (response : Response) (request : SentRequest) (reply? : Option Reply) :
    Prop where
  echo : response.request = request
  shape : ∃! shape, Shape.Of response reply? shape
  broken {e} (h : response.error = some e) :
    (response.statusCode ≠ 0 ↔ ∃ reason, e = .body reason) ∧
    (.brokenStatus response.status ∈ Console.Line.ofError response e ↔ ∃ reason, e = .body reason)

/-- The shape of a response with the given error: the error alone tells it. -/
def Shape.ofError : Option RequestError → Shape
  | none => .complete
  | some (.body _) => .broken
  | some _ => .missing

section Shaped

variable {response : Response} {request : SentRequest} {reply? : Option Reply} {shape : Shape}

theorem Shape.Of.eq_ofError (h : Shape.Of response reply? shape) :
    shape = .ofError response.error := by
  cases shape with
  | complete =>
    obtain ⟨_, _, _, -, -, -, error⟩ := h
    rw [error]
    rfl
  | missing =>
    obtain ⟨-, -, -, -, -, _, error | error⟩ := h <;> rw [error] <;> rfl
  | broken =>
    obtain ⟨_, _, _, -, -, -, error⟩ := h
    rw [error]
    rfl

/-- Of the responses with an error only one without a body shows a status. -/
theorem Shape.Of.statusCode_ne_zero_iff (h : Shape.Of response reply? shape) {e : RequestError}
    (error : response.error = some e) : response.statusCode ≠ 0 ↔ ∃ reason, e = .body reason := by
  cases shape with
  | complete =>
    obtain ⟨_, _, _, -, -, -, complete⟩ := h
    exact nomatch complete.symm.trans error
  | missing =>
    obtain ⟨-, code, -, -, -, reason, missing | missing⟩ := h <;>
      obtain rfl := Option.some.inj (missing.symm.trans error) <;> simp [code]
  | broken =>
    obtain ⟨status, _, reason, -, tells, -, broken⟩ := h
    obtain rfl := Option.some.inj (broken.symm.trans error)
    simp [tells.code, tells.nonzero]

theorem brokenStatus_mem_ofError (response : Response) (e : RequestError) :
    .brokenStatus response.status ∈ Console.Line.ofError response e ↔ response.statusCode ≠ 0 := by
  unfold Console.Line.ofError
  split <;> simp [*]

theorem Answers.of_shape (shape : Shape) (echo : response.request = request)
    (h : Shape.Of response reply? shape) : Answers response request reply? where
  echo := echo
  shape := ⟨shape, h, fun _ h' => h'.eq_ofError.trans h.eq_ofError.symm⟩
  broken error :=
    have iff := h.statusCode_ne_zero_iff error
    ⟨iff, (brokenStatus_mem_ofError response _).trans iff⟩

theorem answers_failed (request : SentRequest) (elapsed : Nat) {e : RequestError}
    (unanswered : ∀ status headers body, reply? ≠ some (.received status headers body))
    (error : ∃ reason, e = .build reason ∨ e = .transport reason) :
    Answers (.failed request e elapsed) request reply? := by
  obtain ⟨reason, rfl | rfl⟩ := error
  · exact .of_shape .missing rfl ⟨unanswered, rfl, rfl, rfl, rfl, reason, .inl rfl⟩
  · exact .of_shape .missing rfl ⟨unanswered, rfl, rfl, rfl, rfl, reason, .inr rfl⟩

theorem Fault.error_eq (fault : Fault) :
    ∃ reason, fault.error = .build reason ∨ fault.error = .transport reason := by
  cases fault with
  | builder text => exact ⟨text, .inl rfl⟩
  | timeout text => exact ⟨"timed out: " ++ text, .inr rfl⟩
  | other text => exact ⟨text, .inr rfl⟩

theorem answers_response (request : SentRequest) (url : Url) (elapsed : Nat) {reply : Reply}
    (nonzero : ∀ status headers body, reply = .received status headers body → status ≠ 0) :
    Answers (reply.response request url elapsed) request (some reply) := by
  cases reply with
  | lost timedOut => exact answers_failed request elapsed nofun ⟨_, .inr rfl⟩
  | abandoned fault => exact answers_failed request elapsed nofun fault.error_eq
  | received status headers body =>
    have tells : Tells ((Reply.received status headers body).response request url elapsed)
        status headers :=
      { nonzero := nonzero status headers body rfl
        code := rfl
        line := fun _ => statusLine_of_mem
        bareLine := statusLine_of_notMem
        headers := fun name => by
          change (((grouped headers).map fun (n, v) => (n, Text.lossy v)).filter _) = _
          rw [List.filter_map, ← filter_grouped headers name]
          rfl }
    cases body with
    | ok body =>
      exact .of_shape .complete rfl ⟨status, headers, body, rfl, tells, rfl, rfl⟩
    | error reason =>
      exact .of_shape .broken rfl ⟨status, headers, reason, rfl, tells, rfl, rfl⟩

end Shaped

section Exchange

variable {ω : Type}

/-- Every response that comes in has a status. -/
def Network.HasStatuses (network : Network (StateM ω)) : Prop :=
  ∀ out world status headers body,
    (network out world).1 = .received status headers body → status ≠ 0

/-- What a network replies to a request, if that passes every check. -/
def Network.reply? (network : Network (StateM ω)) (request : SentRequest) (world : ω) :
    Option Reply :=
  (outgoing request).toOption.map fun out => (network out world).1

/-- Whatever the network does, or when there is no client to ask it, a response answers the request
as it was prepared. -/
theorem execute_answers (network : Network (StateM ω)) (h : network.HasStatuses) (elapsed : Nat)
    (r : Request) (s : Snapshot) (world : ω) :
    Answers (execute network elapsed r s world).1 (prepare r s)
      (network.reply? (prepare r s) world) ∧
    Answers (executeAlone (.ok network) elapsed r s world).1 (prepare r s)
      (network.reply? (prepare r s) world) ∧
    ∀ reason, Answers
      (executeAlone (.error reason : Except String (Network (StateM ω))) elapsed r s world).1
      (prepare r s) none := by
  have answers : Answers (execute network elapsed r s world).1 (prepare r s)
      (network.reply? (prepare r s) world) := by
    unfold execute perform Network.reply?
    cases checked : outgoing (prepare r s) with
    | error e =>
      obtain ⟨reason, rfl⟩ := failsToBuild_outgoing _ e checked
      exact answers_failed _ elapsed nofun ⟨reason, .inl rfl⟩
    | ok out => exact answers_response _ out.url elapsed (h out world)
  exact ⟨answers, answers, fun _ => answers_failed _ 0 nofun ⟨_, .inl rfl⟩⟩

/-- A body that breaks off in the middle, after status and headers have come in. -/
theorem execute_answers_brokenOff :
    let network : Network (StateM Unit) := fun _ =>
      pure (.received 503 [("x-trace", [0x61])] (.error "error decoding response body"))
    let r : Request := { address := { raw := "http://[::1]/flaky" } }
    let response := (execute network 1 r .empty ()).1
    network.HasStatuses ∧
    Answers response (prepare r .empty) (network.reply? (prepare r .empty) ()) ∧
    response.status = "503 Service Unavailable" ∧ response.headers = [("x-trace", "a")] ∧
    response.body = "" := by
  intro network r response
  have statuses : network.HasStatuses := by
    intro out world status headers body h
    cases h
    decide
  have shown : response.status = "503 Service Unavailable" ∧
      response.headers = [("x-trace", "a")] ∧ response.body = "" := by decide +kernel
  exact ⟨statuses, (execute_answers network statuses 1 r .empty ()).1, shown⟩

end Exchange

end Http

end CollectionRunner
