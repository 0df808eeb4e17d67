import CollectionRunner.Proofs.Run.Course
import CollectionRunner.Program

namespace CollectionRunner

namespace Console

/-- What a report tells of a test: its name, and the message of one that failed. -/
def entry : Outcome → Line
  | ⟨name, true, _⟩ => .passedTest name
  | ⟨name, false, some message⟩ => .failedTest name message
  | ⟨name, false, none⟩ => .failedTest name ""

/-- The lines on everything that scripts have reported: what they wrote to the console, then their
tests, then their errors, each kind in the order recorded. -/
def entries (r : TestResult) : List Line :=
  r.logs.map .logged ++ r.outcomes.map entry ++ r.errors.map .scriptError

namespace Line

/-- Whether a line tells of something that a script has reported. -/
def isEntry : Line → Bool
  | .logged _ | .passedTest _ | .failedTest .. | .scriptError _ => true
  | _ => false

theorem ofOutcome_eq_entry (o : Outcome) : ofOutcome o = entry o := by
  obtain ⟨name, _ | _, _ | message⟩ := o
  all_goals rfl

theorem isEntry_entry (o : Outcome) : (entry o).isEntry = true := by
  obtain ⟨name, _ | _, _ | message⟩ := o
  all_goals rfl

/-- A test's line tells of a failure exactly when the test fails. -/
theorem isFailure_entry (o : Outcome) : (entry o).isFailure = ! o.passed := by
  obtain ⟨name, _ | _, _ | message⟩ := o
  all_goals rfl

variable {p : Line → Bool}

/-- Besides its entries a result has only a heading, and a result without entries not even that. -/
theorem filter_ofResult (h : ∀ label passed total, p (.summary label passed total) = false)
    (label : String) (r : TestResult) : (ofResult label r).filter p = (entries r).filter p := by
  unfold ofResult
  split
  · rename_i empty
    unfold TestResult.isEmpty at empty
    simp only [Bool.and_eq_true, List.isEmpty_iff] at empty
    obtain ⟨⟨outcomes, errors⟩, logs⟩ := empty
    simp [entries, outcomes, errors, logs]
  · rw [List.filter_cons_of_neg (by simp [h]), entries, List.map_congr_left fun o _ =>
      ofOutcome_eq_entry o]

theorem filter_isEntry_entries (r : TestResult) : (entries r).filter (·.isEntry) = entries r := by
  refine List.filter_eq_self.2 ?_
  intro line h
  unfold entries at h
  simp only [List.mem_append, List.mem_map] at h
  rcases h with (⟨text, -, rfl⟩ | ⟨o, -, rfl⟩) | ⟨error, -, rfl⟩
  · rfl
  · exact isEntry_entry o
  · rfl

/-- Scripts have passed exactly when none of the lines on them tells of a failure. -/
theorem filter_isFailure_entries (r : TestResult) :
    (entries r).filter (·.isFailure) = [] ↔ r.passed = true := by
  have logs : ∀ line ∈ r.logs.map logged, ¬line.isFailure = true := by simp [isFailure]
  have errors : (r.errors.map scriptError).filter (·.isFailure) = [] ↔ r.errors = [] := by
    cases r.errors with
    | nil => simp
    | cons e rest => simp [isFailure]
  have outcomes : (r.outcomes.map entry).filter (·.isFailure) = [] ↔
      r.outcomes.all (·.passed) = true := by
    simp [List.filter_eq_nil_iff, isFailure_entry]
  unfold entries TestResult.passed
  rw [List.filter_append, List.filter_append, List.filter_eq_nil_iff.2 logs, List.nil_append,
    List.append_eq_nil_iff, outcomes, errors, Bool.and_eq_true, List.isEmpty_iff]
  exact And.comm

theorem filter_isEntry_ofError (r : Response) (e : RequestError) :
    (ofError r e).filter (·.isEntry) = [] := by
  unfold ofError
  split <;> rfl

theorem requestError_mem_ofError (r : Response) (e : RequestError) :
    .requestError e r.milliseconds ∈ ofError r e := by
  unfold ofError
  simp

/-- The lines on a complete response tell neither of scripts nor of a failure. -/
theorem quiet_of_mem_ofResponse {limit : Nat} {r : Response} {line : Line}
    (h : line ∈ ofResponse limit r) : line.isEntry = false ∧ line.isFailure = false := by
  unfold ofResponse at h
  simp only [List.mem_append, List.mem_cons, List.mem_map, List.not_mem_nil, or_false] at h
  rcases h with (((rfl | rfl) | ⟨_, -, rfl⟩) | rfl) | preview
  · exact ⟨rfl, rfl⟩
  · exact ⟨rfl, rfl⟩
  · exact ⟨rfl, rfl⟩
  · exact ⟨rfl, rfl⟩
  · split at preview
    · exact absurd preview List.not_mem_nil
    · rw [List.mem_singleton.1 preview]
      exact ⟨rfl, rfl⟩

theorem filter_ofResponse
    (h : ∀ line : Line, line.isEntry = false ∧ line.isFailure = false → p line = false)
    (limit : Nat) (r : Response) : (ofResponse limit r).filter p = [] := by
  refine List.filter_eq_nil_iff.2 ?_
  intro line shown
  rw [h line (quiet_of_mem_ofResponse shown)]
  exact Bool.false_ne_true

end Line

/-- Lines that tell everything that the scripts of a run have reported, and whether it passed. -/
structure Tells (lines : List Line) (run : Run) : Prop where
  entries : lines.filter (·.isEntry) = entries run.prerequest ++ entries run.tests
  passed : run.passed = true ↔ ∀ line ∈ lines, line.isFailure = false

/-- A run passes exactly when its report has no line on a failure. -/
theorem passed_iff_ofRun (limit : Nat) (run : Run) :
    run.passed = true ↔ ∀ line ∈ Line.ofRun limit run, line.isFailure = false := by
  have summary : ∀ label passed total, (Line.summary label passed total).isFailure = false :=
    fun _ _ _ => rfl
  unfold Run.passed
  cases failed : run.response.error with
  | some e =>
    rw [Option.isNone_some, Bool.false_and, Bool.false_and]
    refine ⟨nofun, fun quiet => ?_⟩
    have shown : .requestError e run.response.milliseconds ∈ Line.ofRun limit run := by
      unfold Line.ofRun
      rw [failed]
      exact .tail _ (List.mem_append_right _ (Line.requestError_mem_ofError run.response e))
    exact absurd (quiet _ shown) (by simp [Line.isFailure])
  | none =>
    have lines : (Line.ofRun limit run).filter (·.isFailure) =
        (Console.entries run.prerequest).filter (·.isFailure) ++
          (Console.entries run.tests).filter (·.isFailure) := by
      unfold Line.ofRun
      rw [failed, List.filter_cons_of_neg (by simp [Line.isFailure]), List.filter_append,
        List.filter_append, Line.filter_ofResult summary, Line.filter_ofResult summary,
        Line.filter_ofResponse (fun _ quiet => quiet.2), List.nil_append]
    have quiet : (∀ line ∈ Line.ofRun limit run, line.isFailure = false) ↔
        (Line.ofRun limit run).filter (·.isFailure) = [] := by
      simp [List.filter_eq_nil_iff]
    rw [quiet, lines, List.append_eq_nil_iff, Line.filter_isFailure_entries,
      Line.filter_isFailure_entries, Option.isNone_none, Bool.true_and, Bool.and_eq_true]

/-- The report stops after a request that failed, and loses nothing if no scripts were run on its
response. -/
theorem tells_ofRun {run : Run}
    (h : run.response.error.isSome = true → run.tests = .empty) (limit : Nat) :
    Tells (Line.ofRun limit run) run := by
  refine ⟨?_, passed_iff_ofRun limit run⟩
  have summary : ∀ label passed total, (Line.summary label passed total).isEntry = false :=
    fun _ _ _ => rfl
  unfold Line.ofRun
  rw [List.filter_cons_of_neg (by simp [Line.isEntry]), List.filter_append,
    Line.filter_ofResult summary, Line.filter_isEntry_entries]
  cases failed : run.response.error with
  | some e =>
    -- nothing is shown of the tests here, and there are none
    rw [h (by rw [failed]; rfl), Line.filter_isEntry_ofError]
    rfl
  | none =>
    rw [List.filter_append, Line.filter_ofResponse (fun _ quiet => quiet.1),
      Line.filter_ofResult summary, Line.filter_isEntry_entries, List.nil_append]

end Console

/-- No scripts are run on a response that carries an error. -/
theorem Course.tests_of_error {config : Config} {elapsed : Nat} {breadcrumb : List String}
    {name : String} {item : Item} {w w' : Workspace} {run : Run} {actions : List Action}
    (h : Course config elapsed breadcrumb name item w run w' actions)
    (failed : run.response.error.isSome = true) : run.tests = .empty := by
  cases h with
  | failed => rfl
  | complete _ _ _ error =>
    dsimp only at failed
    rw [error, Option.isSome_none] at failed
    exact absurd failed Bool.false_ne_true

section

variable {breadcrumb : List String} {name : String} {w : Workspace} {run : Run}

theorem Runner.tells_of_run (r : Runner) {w' : Workspace}
    (h : r.run breadcrumb name w = .ok (run, w')) (limit : Nat) :
    Console.Tells (Console.Line.ofRun limit run) run := by
  cases found : w.collection.findRequest? breadcrumb name with
  | none =>
    unfold Runner.run runOn at h
    rw [found] at h
    have missing : Except.error (RunError.notFound breadcrumb name) = Except.ok (run, w') := h
    cases missing
  | some item =>
    obtain ⟨run', w'', _, ran, course⟩ := r.run_takes_course found
    rw [ran] at h
    cases h
    exact Console.tells_ofRun course.tests_of_error limit

end

end CollectionRunner
