import CollectionRunner.Proofs.Script.Desk
import CollectionRunner.Script.Run

namespace CollectionRunner.Script

/-- A script was told that it has to end. -/
def Told (marks : List Mark) : Prop := ∃ calls, .answered calls true ∈ marks

theorem told_iff (marks : List Mark) : Told marks ↔ marks.any (·.isInterrupt) = true := by
  rw [List.any_eq_true]
  constructor
  · rintro ⟨calls, h⟩
    exact ⟨_, h, rfl⟩
  · rintro ⟨mark, h, interrupt⟩
    cases mark with
    | answered calls told =>
      cases interrupt
      exact ⟨calls, h⟩
    | recorded => cases interrupt
    | left => cases interrupt

/-- How far a script comes, were it not for the deadline. -/
inductive Fate where
  | notSetUp
  | threw
  | completed
  deriving DecidableEq, Repr

namespace Launch

variable {σ θ : Type}

/-- What happens when a script runs: nothing, if it was not set up. -/
def marks (schedule : Nat → Bool) (view : View) : Except String (Launch σ θ) → List Mark
  | .error _ => []
  | .ok launch => launch.trace schedule { view }

/-- How far a script comes. What is thrown at its top level ends it, an interrupt as well. -/
def fate (schedule : Nat → Bool) (view : View) : Except String (Launch σ θ) → Fate
  | .error _ => .notSetUp
  | .ok launch =>
    if (launch.body.run schedule { view }).1.isReturn then .completed else .threw

end Launch

/-- The error that a script ends with, if any, by what happened when it ran and how far it came. -/
inductive Ends (deadline : Nat) (marks : List Mark) : Fate → Option ScriptError → Prop where
  | notSetUp {reason} (idle : ¬Told marks) : Ends deadline marks .notSetUp (some (.setup reason))
  | late {fate} (started : fate ≠ .notSetUp) (told : Told marks) :
      Ends deadline marks fate (some (.timeout deadline))
  | threw {message} (timely : ¬Told marks) : Ends deadline marks .threw (some (.runtime message))
  | completed (timely : ¬Told marks) : Ends deadline marks .completed none

namespace Ends

variable {deadline : Nat} {marks : List Mark} {fate : Fate} {failure : Option ScriptError}

theorem timeout_iff (h : Ends deadline marks fate failure) (d : Nat) :
    failure = some (.timeout d) ↔ d = deadline ∧ Told marks := by
  cases h with
  | notSetUp idle => exact ⟨nofun, fun late => absurd late.2 idle⟩
  | late _ told =>
    simp only [Option.some.injEq, ScriptError.timeout.injEq]
    exact ⟨fun h => ⟨h.symm, told⟩, fun h => h.1.symm⟩
  | threw timely => exact ⟨nofun, fun late => absurd late.2 timely⟩
  | completed timely => exact ⟨nofun, fun late => absurd late.2 timely⟩

theorem runtime_iff (h : Ends deadline marks fate failure) :
    (∃ message, failure = some (.runtime message)) ↔ ¬Told marks ∧ fate = .threw := by
  cases h with
  | notSetUp idle => exact ⟨nofun, fun h => nomatch h.2⟩
  | late _ told => exact ⟨nofun, fun h => absurd told h.1⟩
  | threw timely => exact ⟨fun _ => ⟨timely, rfl⟩, fun _ => ⟨_, rfl⟩⟩
  | completed timely => exact ⟨nofun, fun h => nomatch h.2⟩

theorem setup_iff (h : Ends deadline marks fate failure) :
    (∃ message, failure = some (.setup message)) ↔ fate = .notSetUp := by
  cases h with
  | notSetUp idle => exact ⟨fun _ => rfl, fun _ => ⟨_, rfl⟩⟩
  | late started told => exact ⟨nofun, fun h => absurd h started⟩
  | threw timely => exact ⟨nofun, nofun⟩
  | completed timely => exact ⟨nofun, nofun⟩

theorem none_iff (h : Ends deadline marks fate failure) :
    failure = none ↔ ¬Told marks ∧ fate = .completed := by
  cases h with
  | notSetUp idle => exact ⟨nofun, fun h => nomatch h.2⟩
  | late _ told => exact ⟨nofun, fun h => absurd told h.1⟩
  | threw timely => exact ⟨nofun, fun h => nomatch h.2⟩
  | completed timely => exact ⟨fun _ => ⟨timely, rfl⟩, fun _ => rfl⟩

theorem ne_invalidTest (h : Ends deadline marks fate failure) (reason : String) :
    failure ≠ some (.invalidTest reason) := by
  cases h
  all_goals exact nofun

end Ends

namespace Launch

variable {σ θ : Type}

/-- What goes wrong with a script that is not told to end: nothing, if it returns. -/
theorem conclude_failure (schedule : Nat → Bool) (launch : Launch σ θ) (l : Ledger) :
    ((launch.body.run schedule l).1.isReturn = true ∧ (launch.conclude schedule l).1 = none) ∨
      ((launch.body.run schedule l).1.isReturn = false ∧
        ∃ message, (launch.conclude schedule l).1 = some (.runtime message)) := by
  unfold conclude
  rcases launch.body.run schedule l with ⟨text | thrown | _, state, l'⟩
  · exact .inl ⟨rfl, rfl⟩
  · exact .inr ⟨rfl, _, rfl⟩
  · exact .inr ⟨rfl, _, rfl⟩

theorem ends_report (deadline : Nat) (schedule : Nat → Bool) (view : View)
    (setup : Except String (Launch σ θ)) :
    Ends deadline (marks schedule view setup) (fate schedule view setup)
      (report deadline schedule view setup).failure := by
  cases setup with
  | error reason => exact .notSetUp (by rintro ⟨_, h⟩; cases h)
  | ok launch =>
    have interrupted := (launch.conclude_ledger schedule { view }).2
    have fresh : ({ view } : Ledger).interrupted = false := rfl
    rw [fresh, Bool.false_or] at interrupted
    unfold report fate marks
    dsimp only
    -- being told comes first: how the script ended counts only without it
    by_cases told : Told (launch.trace schedule { view })
    · rw [if_pos (interrupted.trans ((told_iff _).1 told))]
      refine .late ?_ told
      split
      · exact nofun
      · exact nofun
    · rw [if_neg (fun h => told ((told_iff _).2 (interrupted.symm.trans h)))]
      rcases launch.conclude_failure schedule { view } with
        ⟨returned, failure⟩ | ⟨returned, _, failure⟩
      · rw [returned, if_pos rfl, failure]
        exact .completed told
      · rw [returned, if_neg Bool.false_ne_true, failure]
        exact .threw told

/-- What a script leaves with its host is what was recorded when it ran. -/
theorem journal_report (deadline : Nat) (schedule : Nat → Bool) (view : View)
    (setup : Except String (Launch σ θ)) :
    (report deadline schedule view setup).journal =
      (marks schedule view setup).filterMap (·.event?) := by
  cases setup with
  | error reason => rfl
  | ok launch =>
    have journal := (launch.conclude_ledger schedule { view }).1
    unfold report marks
    dsimp only
    rw [journal, List.append_nil, List.reverse_reverse]

end Launch

namespace Recorded

variable (marks : List Mark)

/-- The outcomes that were recorded, in order. -/
def outcomes : List Outcome := marks.filterMap fun
  | .recorded (.outcome o) => some o
  | _ => none

/-- Why calls of `pm.test` were wrong. -/
def reasons : List String := marks.filterMap fun
  | .recorded (.misuse reason) => some reason
  | _ => none

def lines : List String := marks.filterMap fun
  | .recorded (.logged _ line) => some line
  | _ => none

def writes : List Write := marks.filterMap fun
  | .recorded (.wrote w) => some w
  | _ => none

end Recorded

/-- What is reported of a script, by what happened when it ran and how far it came. -/
structure Judged (deadline : Nat) (marks : List Mark) (fate : Fate) (report : Report) : Prop where
  /-- The error that the script ended with stands after those of wrong calls. -/
  errors : report.result.errors =
    (Recorded.reasons marks).map .invalidTest ++ report.failure.toList
  ending : ∀ reason, report.failure ≠ some (.invalidTest reason)
  timeout : ∀ d, report.failure = some (.timeout d) ↔ d = deadline ∧ Told marks
  runtime : (∃ message, report.failure = some (.runtime message)) ↔ ¬Told marks ∧ fate = .threw
  setup : (∃ message, report.failure = some (.setup message)) ↔ fate = .notSetUp
  completed : report.failure = none ↔ ¬Told marks ∧ fate = .completed
  /-- All that was recorded is there in the end, and nothing else. -/
  journal : report.journal = marks.filterMap (·.event?)
  outcomes : report.result.outcomes = Recorded.outcomes marks
  logs : report.result.logs = Recorded.lines marks
  writes : report.writes = Recorded.writes marks
  /-- What was recorded by some moment stands before what was recorded later. -/
  kept : ∀ before after, marks = before ++ after →
    Recorded.outcomes before <+: report.result.outcomes ∧
    Recorded.lines before <+: report.result.logs ∧
    Recorded.writes before <+: report.writes
  timedOut : report.result.timedOut = true ↔ Told marks
  failed : Told marks → report.result.passed = false

/-- What a journal holds of a kind is what was recorded of that kind. -/
theorem Report.parts_eq {report : Report} {marks : List Mark}
    (journal : report.journal = marks.filterMap (·.event?)) :
    report.result.outcomes = Recorded.outcomes marks ∧
    report.journal.filterMap (·.misuse?) = (Recorded.reasons marks).map .invalidTest ∧
    report.result.logs = Recorded.lines marks ∧
    report.writes = Recorded.writes marks := by
  unfold Report.result Report.writes
  rw [journal, Recorded.reasons, List.map_filterMap]
  simp only [List.filterMap_filterMap]
  refine ⟨?_, ?_, ?_, ?_⟩
  all_goals
    refine List.filterMap_congr fun mark _ => ?_
    rcases mark with _ | (_ | _ | _ | _) | _
    all_goals rfl

/-- Only a deadline makes a script time out. -/
theorem Ends.any_isTimeout {deadline : Nat} {marks : List Mark} {fate : Fate}
    {failure : Option ScriptError} (h : Ends deadline marks fate failure) :
    failure.toList.any (·.isTimeout) = true ↔ Told marks := by
  cases h with
  | notSetUp idle => exact ⟨nofun, fun told => absurd told idle⟩
  | late _ told => exact ⟨fun _ => told, fun _ => rfl⟩
  | threw timely => exact ⟨nofun, fun told => absurd told timely⟩
  | completed timely => exact ⟨nofun, fun told => absurd told timely⟩

theorem Judged.of_ends {deadline : Nat} {marks : List Mark} {fate : Fate} {report : Report}
    (ends : Ends deadline marks fate report.failure)
    (journal : report.journal = marks.filterMap (·.event?)) :
    Judged deadline marks fate report := by
  obtain ⟨outcomes, misuses, logs, writes⟩ := Report.parts_eq journal
  have errors : report.result.errors =
      (Recorded.reasons marks).map .invalidTest ++ report.failure.toList := by
    unfold Report.result
    rw [misuses]
  have timedOut : report.result.timedOut = true ↔ Told marks := by
    have wrongCalls :
        ((Recorded.reasons marks).map ScriptError.invalidTest).any (·.isTimeout) = false := by
      simp [ScriptError.isTimeout]
    unfold TestResult.timedOut
    rw [errors, List.any_append, wrongCalls, Bool.false_or]
    exact ends.any_isTimeout
  refine ⟨errors, ends.ne_invalidTest, ends.timeout_iff, ends.runtime_iff, ends.setup_iff,
    ends.none_iff, journal, outcomes, logs, writes, ?_, timedOut, ?_⟩
  · rintro before after rfl
    rw [outcomes, logs, writes]
    unfold Recorded.outcomes Recorded.lines Recorded.writes
    simp only [List.filterMap_append, List.prefix_append, and_self]
  · intro told
    have late := (ends.timeout_iff deadline).2 ⟨rfl, told⟩
    have wrong : report.result.errors ≠ [] := by
      rw [errors, late]
      exact List.append_ne_nil_of_right_ne_nil _ (List.cons_ne_nil _ _)
    unfold TestResult.passed
    rw [List.isEmpty_eq_false_iff.2 wrong, Bool.false_and]

theorem Launch.judged_reportOn {σ θ : Type} (deadline : Nat) (schedule : Nat → Bool)
    (lists : VariableLists) (setup : Except String (Launch σ θ)) :
    Judged deadline (marks schedule lists.view setup) (fate schedule lists.view setup)
      (Launch.reportOn deadline schedule lists setup).1 := by
  rw [Launch.reportOn_eq]
  exact .of_ends (ends_report deadline schedule lists.view setup)
    (journal_report deadline schedule lists.view setup)

/-- Whatever a script does, whether or not it could be set up, and whenever the deadline passes
while it runs: its errors are those of wrong calls of `pm.test` and then at most one that says how
it ended, which is the deadline exactly when the script was told to end; otherwise it is what was
thrown at the top level, or why the script was not set up. All that it had left with its host by any
moment stays, in the lists of variables as well. Scripts of the engine, with any source, phase,
response and limits, are among those that this is about. -/
theorem Launch.reportOn_judged {σ θ : Type} (deadline : Nat) (schedule : Nat → Bool)
    (lists : VariableLists) (setup : Except String (Launch σ θ)) :
    let report := (Launch.reportOn deadline schedule lists setup).1
    Judged deadline (marks schedule lists.view setup) (fate schedule lists.view setup) report ∧
    (Launch.reportOn deadline schedule lists setup).2 = lists.setAll report.writes ∧
    report = Launch.report deadline schedule lists.view setup ∧
    ∀ (limits : Limits) (source : String) (phase : Phase) (response : Option Response),
      let script := launch limits source phase response
      engine limits source phase response lists.view =
        Launch.report limits.deadline limits.schedule lists.view script ∧
      Judged limits.deadline (marks schedule lists.view script) (fate schedule lists.view script)
        (Launch.reportOn limits.deadline schedule lists script).1 := by
  intro report
  have reported : report = Launch.report deadline schedule lists.view setup := by
    unfold report
    rw [Launch.reportOn_eq]
  have left : (Launch.reportOn deadline schedule lists setup).2 = lists.setAll report.writes := by
    rw [reported, Launch.reportOn_eq]
  refine ⟨judged_reportOn deadline schedule lists setup, left, reported, ?_⟩
  intro limits source phase response script
  exact ⟨rfl, judged_reportOn limits.deadline schedule lists script⟩

end CollectionRunner.Script
