import CollectionRunner.Proofs.Http.Names
import CollectionRunner.Proofs.Http.Shapes

namespace CollectionRunner.Http

def methodFaults (method : String) : List RequestError :=
  if isMethod method then [] else [.build ("invalid HTTP method " ++ method)]

def urlFaults (url : String) : List RequestError :=
  match Url.parse url with
  | .ok _ => []
  | .error e => [.build ("invalid URL '" ++ url ++ "': " ++ e.message)]

def nameFaults (name : String) : List RequestError :=
  if (headerName? name).isSome then [] else [.build ("invalid header name '" ++ name ++ "'")]

def valueFaults (name value : String) : List RequestError :=
  if isHeaderValue value then []
  else [.build ("invalid value for header '" ++ name.toLower ++ "'")]

/-- The faults of headers, those of each name before those of its value. -/
def headerFaults (headers : List (String × String)) : List RequestError :=
  headers.flatMap fun (name, value) => nameFaults name ++ valueFaults name value

/-- All faults of a request, in the order of its parts. -/
def faults (r : SentRequest) : List RequestError :=
  methodFaults r.method ++ urlFaults r.url ++ headerFaults r.headers

/-- A request of which every part may be sent. -/
structure Sound (r : SentRequest) : Prop where
  method : isMethod r.method = true
  url : ∃ url, Url.parse r.url = .ok url
  headers : ∀ h ∈ r.headers, (headerName? h.1).isSome = true ∧ isHeaderValue h.2 = true

theorem methodFaults_eq_nil_iff (method : String) :
    methodFaults method = [] ↔ isMethod method = true := by
  unfold methodFaults
  split <;> simp [*]

theorem urlFaults_eq_nil_iff (url : String) :
    urlFaults url = [] ↔ ∃ parsed, Url.parse url = .ok parsed := by
  unfold urlFaults
  split <;> simp [*]

theorem headerFaults_eq_nil_iff (headers : List (String × String)) : headerFaults headers = [] ↔
    ∀ h ∈ headers, (headerName? h.1).isSome = true ∧ isHeaderValue h.2 = true := by
  simp [headerFaults, nameFaults, valueFaults, Option.isSome_iff_ne_none]

theorem faults_eq_nil_iff (r : SentRequest) : faults r = [] ↔ Sound r := by
  unfold faults
  rw [List.append_eq_nil_iff, List.append_eq_nil_iff, methodFaults_eq_nil_iff,
    urlFaults_eq_nil_iff, headerFaults_eq_nil_iff]
  exact ⟨fun ⟨⟨method, url⟩, headers⟩ => ⟨method, url, headers⟩,
    fun sound => ⟨⟨sound.method, sound.url⟩, sound.headers⟩⟩

theorem headerName?_eq_some {name key : String} (h : headerName? name = some key) :
    key = name.toLower := by
  obtain ⟨-, found⟩ := Option.ite_none_right_eq_some.1 h
  exact (Option.some.inj found).symm

/-- Headers without a fault by their names. -/
def gathered (before : HeaderMap) (headers : List (String × String)) : HeaderMap :=
  headers.foldl (fun m h => m.append h.1.toLower h.2) before

/-- A fault of any header is an error, whatever stands before it. -/
theorem gather_eq (before : HeaderMap) (headers : List (String × String)) :
    gather before headers = match (headerFaults headers).head? with
      | some e => .error e
      | none => .ok (gathered before headers) := by
  induction headers generalizing before with
  | nil => rfl
  | cons header rest ih =>
    obtain ⟨name, value⟩ := header
    have faults_cons : headerFaults ((name, value) :: rest) =
        nameFaults name ++ valueFaults name value ++ headerFaults rest := List.flatMap_cons
    unfold gather
    rw [faults_cons]
    unfold nameFaults valueFaults
    cases named : headerName? name with
    | none => rfl
    | some key =>
      obtain rfl := headerName?_eq_some named
      cases isHeaderValue value with
      | false => rfl
      | true => exact ih _

theorem handed_of_fault {r : SentRequest} {e : RequestError} (h : (faults r).head? = some e) :
    handed r = .error e := by
  unfold faults methodFaults urlFaults at h
  unfold handed
  cases method : isMethod r.method with
  | false =>
    rw [method] at h
    exact congrArg _ (Option.some.inj h)
  | true =>
    rw [method] at h
    cases parsed : Url.parse r.url with
    | error cause =>
      rw [parsed] at h
      exact congrArg _ (Option.some.inj h)
    | ok url =>
      rw [parsed] at h
      have first : (headerFaults r.headers).head? = some e := h
      have stopped : gather .empty r.headers = .error e := by rw [gather_eq, first]
      change (gather .empty r.headers >>= _) = _
      rw [stopped]
      rfl

theorem handed_of_sound {r : SentRequest} (h : Sound r) : ∃ url, Url.parse r.url = .ok url ∧
    handed r = .ok ⟨r.method, url, gathered .empty r.headers, r.body⟩ := by
  obtain ⟨method, ⟨url, parsed⟩, headers⟩ := h
  have none : headerFaults r.headers = [] := (headerFaults_eq_nil_iff _).2 headers
  have all : gather .empty r.headers = .ok (gathered .empty r.headers) := by
    rw [gather_eq, none]
    rfl
  refine ⟨url, parsed, ?_⟩
  unfold handed
  rw [method, parsed]
  change (gather .empty r.headers >>= _) = _
  rw [all]
  rfl

/-- The values under a name, in whatever case it is spelled. -/
def valuesOf (headers : List (String × String)) (name : String) : List String :=
  (headers.filter fun h => sameName h.1 name).map (·.2)

theorem filter_toList_gathered (before : HeaderMap) (headers : List (String × String))
    (key : String) : (gathered before headers).toList.filter (·.1 == key) =
      before.toList.filter (·.1 == key) ++
        (headers.map fun h => (h.1.toLower, h.2)).filter (·.1 == key) := by
  induction headers generalizing before with
  | nil => simp [gathered]
  | cons header rest ih =>
    have step := ih (before.append header.1.toLower header.2)
    rw [HeaderMap.filter_toList_append] at step
    refine step.trans ?_
    rw [List.append_assoc, List.map_cons, List.filter_cons]
    congr 1
    by_cases same : header.1.toLower = key <;> simp [same]

/-- Headers by their names have the values that they had, each name's in order. -/
theorem valuesOf_gathered (headers : List (String × String)) (name : String) :
    valuesOf (gathered .empty headers).toList name = valuesOf headers name := by
  have each (key : String) : (gathered .empty headers).toList.filter (·.1 == key) =
      (headers.map fun h => (h.1.toLower, h.2)).filter (·.1 == key) := by
    rw [filter_toList_gathered]
    rfl
  have small : ∀ h ∈ (gathered .empty headers).toList,
      sameName h.1 name = (h.1 == name.toLower) := by
    intro h mem
    have kept : h ∈ (headers.map fun h => (h.1.toLower, h.2)).filter (·.1 == h.1) := by
      rw [← each, List.mem_filter]
      exact ⟨mem, beq_self_eq_true h.1⟩
    obtain ⟨header, -, rfl⟩ := List.mem_map.1 (List.mem_filter.1 kept).1
    unfold sameName
    rw [toLower_toLower]
  unfold valuesOf
  rw [List.filter_congr small, each, List.filter_map, List.map_map]
  rfl

theorem outgoing_of_fault {r : SentRequest} {e : RequestError} (h : handed r = .error e) :
    outgoing r = .error e := by
  unfold outgoing
  rw [h]
  rfl

theorem outgoing_of_handed {r : SentRequest} {out : Outgoing} (h : handed r = .ok out) :
    outgoing r = match out.refusal? with
      | some e => .error e
      | none => .ok out := by
  unfold outgoing
  rw [h]
  rfl

/-- What is handed on says what the request says. -/
structure Echoes (out : Outgoing) (r : SentRequest) : Prop where
  method : out.method = r.method
  url : Url.parse r.url = .ok out.url
  headers (name : String) : valuesOf out.headers.toList name = valuesOf r.headers name
  body : out.body = r.body

/-- With a fault nothing is sent and the first one is reported. A sound request is handed to the
client as it is, and sent unless the client finds a fault of its own. -/
theorem perform_checked {m : Type → Type} [Monad m] (network : Network m) (elapsed : Nat)
    (r : SentRequest) :
    (¬ Sound r → ∃ reason, (faults r).head? = some (.build reason) ∧
      perform network elapsed r = pure (.failed r (.build reason) elapsed)) ∧
    (Sound r → ∃ out, handed r = .ok out ∧ Echoes out r ∧ perform network elapsed r =
      match out.refusal? with
      | some e => pure (.failed r e elapsed)
      | none => do
        let reply ← network out
        return reply.response r out.url elapsed) := by
  unfold perform
  constructor
  · intro unsound
    obtain ⟨e, rest, first⟩ := List.exists_cons_of_ne_nil (mt (faults_eq_nil_iff r).1 unsound)
    have reported : (faults r).head? = some e := by rw [first, List.head?_cons]
    have stopped := handed_of_fault reported
    obtain ⟨reason, rfl⟩ := failsToBuild_handed r e stopped
    refine ⟨reason, reported, ?_⟩
    rw [outgoing_of_fault stopped]
  · intro sound
    obtain ⟨url, parsed, passed⟩ := handed_of_sound sound
    refine ⟨_, passed, ⟨rfl, parsed, valuesOf_gathered r.headers, rfl⟩, ?_⟩
    rw [outgoing_of_handed passed]
    cases Outgoing.refusal? _ <;> rfl

/-- A name in two spellings, and the same request with two faults in its second header. -/
theorem perform_checked_spellings :
    let r : SentRequest :=
      { method := "POST", url := "http://[::1]:8080/tags"
        headers := [("X-Tag", "1"), ("x-tag", "2")], body := some "text" }
    let broken : SentRequest := { r with headers := [("X-Tag", "1"), ("x tag", "\n")] }
    Sound r ∧ (∃ out, handed r = .ok out ∧ Echoes out r) ∧
      ¬ Sound broken ∧ perform (m := Id) unreachable 1 broken =
        .failed broken (.build "invalid header name 'x tag'") 1 := by
  intro r broken
  have sound : Sound r := by
    refine ⟨by decide, ?_, by decide +kernel⟩
    cases parsed : Url.parse r.url with
    | ok url => exact ⟨url, rfl⟩
    | error e =>
      have : (Url.parse r.url).toOption.isSome = true := by decide +kernel
      simp [parsed, Except.toOption] at this
  have unsound : ¬ Sound broken := fun sound =>
    absurd (sound.headers ("x tag", "\n") (by simp [broken])).2 (by decide)
  obtain ⟨out, passed, echoes, -⟩ := (perform_checked (m := Id) unreachable 1 r).2 sound
  obtain ⟨reason, first, failed⟩ := (perform_checked (m := Id) unreachable 1 broken).1 unsound
  have named : (faults broken).head? = some (.build "invalid header name 'x tag'") := by
    decide +kernel
  rw [named] at first
  obtain rfl := RequestError.build.inj (Option.some.inj first)
  exact ⟨sound, ⟨out, passed, echoes⟩, unsound, failed⟩

end CollectionRunner.Http
