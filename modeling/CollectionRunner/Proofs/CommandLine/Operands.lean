import CollectionRunner.CommandLine.Invocation

namespace CollectionRunner.CommandLine

/-- The command that runs a request, below the program's name. -/
def runLevel : Level := (Level.top program).below runCommand

def collectionArgument : Argument :=
  .operand (collectionOperand "Collection file (Postman v2.1 JSON)")

def requestArgument : Argument := .operand requestOperand

/-- What was given when both operands were. -/
def operandsGiven (collection request : String) : List Given :=
  [{ argument := collectionArgument, value := some collection },
    { argument := requestArgument, value := some request }]

/-- After two dashes every word is an operand, however it begins. -/
theorem read_operands {collection : String} (some_path : collection ≠ "") (request : String) :
    Reading.read runLevel { onlyOperands := true } [collection, request] =
      .ok [("run", operandsGiven collection request)] := by
  let first : Reading :=
    { onlyOperands := true, operandCount := 1,
      pending := some (collectionArgument, some collection) }
  let second : Reading :=
    { onlyOperands := true, operandCount := 2,
      pending := some (requestArgument, some request),
      given := [{ argument := collectionArgument, value := some collection }] }
  have take_first :
      Reading.take runLevel { onlyOperands := true } collection [request] = .ok first := rfl
  have checked : ∀ a, ValueKind.path.problem? a collection = none := fun a => if_neg some_path
  have take_second : Reading.take runLevel first request [] = .ok second := by
    change (do
      let s ← Reading.addValue runLevel { onlyOperands := true, operandCount := 1 }
        collectionArgument .path collection
      return { s with
        pending := some (requestArgument, some request), operandCount := s.operandCount + 1 }) = _
    unfold Reading.addValue
    rw [checked]
    rfl
  change (Reading.take runLevel { onlyOperands := true } collection [request] >>= fun s =>
    Reading.read runLevel s [request]) = _
  rw [take_first]
  change (Reading.take runLevel first request [] >>= fun s => Reading.read runLevel s []) = _
  rw [take_second]
  rfl

section Operands

variable (collection request : String)

theorem given?_operandsGiven (key : String) :
    given? (operandsGiven collection request) key =
      if key = "COLLECTION" then some { argument := collectionArgument, value := some collection }
      else if key = "REQUEST" then some { argument := requestArgument, value := some request }
      else none := by
  have first : collectionArgument.key = "COLLECTION" := rfl
  have second : requestArgument.key = "REQUEST" := rfl
  rw [given?, operandsGiven, List.find?_cons, List.find?_cons, List.find?_nil]
  dsimp only
  rw [first, second]
  by_cases hc : key = "COLLECTION"
  · rw [hc]
    rfl
  · have other : ("COLLECTION" == key) = false := by simpa using Ne.symm hc
    rw [if_neg hc, other]
    by_cases hr : key = "REQUEST"
    · rw [hr]
      rfl
    · have other : ("REQUEST" == key) = false := by simpa using Ne.symm hr
      rw [if_neg hr, other]

theorem ofGiven?_operandsGiven :
    Task.ofGiven? "run" (operandsGiven collection request) =
      some (.run collection request none none 512) := by
  have preview : (readCount "512").toOption = some 512 := by decide +kernel
  simp [Task.ofGiven?, valueOf, given?_operandsGiven, previewFlag, preview, runCommand]

/-- Any collection's path and any request's path can be given to a run. -/
theorem ofArguments_operands (some_path : collection ≠ "") :
    Invocation.ofArguments ["run", "--", collection, request] =
      .ok ⟨.run collection request none none 512, false, 0⟩ := by
  have levels : Reading.read (.top program) {} ["run", "--", collection, request] =
      .ok [("pmrun", []), ("run", operandsGiven collection request)] := by
    change (do
      return ("pmrun", ([] : List Given)) ::
        (← Reading.read runLevel { onlyOperands := true } [collection, request])) = _
    rw [read_operands some_path request]
    rfl
  have no_flag (key : String) (h : key ≠ "COLLECTION" ∧ key ≠ "REQUEST") :
      countOf key [("pmrun", []), ("run", operandsGiven collection request)] = 0 := by
    have absent : given? (operandsGiven collection request) key = none := by
      rw [given?_operandsGiven, if_neg h.1, if_neg h.2]
    rw [countOf, List.filterMap_cons, List.filterMap_cons, absent]
    rfl
  have no_json := no_flag jsonLogsFlag.long (by decide)
  have not_verbose := no_flag verboseFlag.long (by decide)
  unfold Invocation.ofArguments
  rw [levels]
  simp [bind, Except.bind, pure, Except.pure, ofGiven?_operandsGiven, no_json, not_verbose]

end Operands

end CollectionRunner.CommandLine
