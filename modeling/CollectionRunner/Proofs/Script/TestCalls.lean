import CollectionRunner.Proofs.Script.Verdict

namespace CollectionRunner.Script

/-- How `pm.test` is called: with a name, if the first argument is a text, and with a function or
without. -/
structure TestCall where
  name : Option String
  callable : Bool
  deriving DecidableEq, Repr

/-- How the function of a test comes to its end. -/
inductive Closing where
  | returned
  | threw
  | interrupted
  deriving DecidableEq, Repr

/-- What can be told of the calls of `pm.test` in a run. -/
inductive Moment where
  /-- The script was told that it has to end. -/
  | told
  | recorded (e : Event)
  | called (call : TestCall)
  /-- A call begins to run its function. -/
  | entered (call : TestCall)
  | closed (call : TestCall) (closing : Closing)
  /-- A call returned to the script, or a failure was passed on. -/
  | left (call : TestCall) (returned : Bool)
  deriving DecidableEq, Repr

namespace Behaviour

variable {σ θ : Type} {schedule : Nat → Bool}

/-- The calls of `pm.test` in a run of a script, with all that the script leaves, in order. -/
def moments (schedule : Nat → Bool) : Behaviour σ θ → Ledger → List Moment
  | .ended _ _, _ => []
  | .poll next, l =>
    (if (l.poll schedule).1 then [.told] else []) ++
      moments schedule (next (l.poll schedule).1) (l.poll schedule).2
  | .get scope key next, l => moments schedule (next (l.view.get? scope key)) l
  | .set w next, l => .recorded (.wrote w) :: moments schedule next (l.write w)
  | .log level line next, l =>
    .recorded (.logged level line) :: moments schedule next (l.record (.logged level line))
  | .attempt body next, l =>
    let (ending, state, l') := run schedule body l
    moments schedule body l ++ moments schedule (next ending.text? state) l'
  | .test state none callback _ next, l =>
    let call : TestCall := ⟨none, callback.isSome⟩
    .called call :: .recorded (.misuse missingName) :: .left call true ::
      moments schedule (next (.returned none) state) (l.record (.misuse missingName))
  | .test state (some name) none _ next, l =>
    let call : TestCall := ⟨some name, false⟩
    .called call :: .recorded (.misuse (missingCallback name)) :: .left call true ::
      moments schedule (next (.returned none) state) (l.record (.misuse (missingCallback name)))
  | .test _ (some name) (some callback) describe next, l =>
    let call : TestCall := ⟨some name, true⟩
    .called call :: .entered call :: (moments schedule callback l ++
      match run schedule callback l with
      | (.returned _, state, l) =>
        .closed call .returned :: .recorded (.outcome (.pass name)) :: .left call true ::
          moments schedule (next (.returned none) state) (l.record (.outcome (.pass name)))
      | (.interrupted, state, l) =>
        .closed call .interrupted :: .left call false ::
          moments schedule (next .interrupted state) l
      | (.threw thrown, state, l) =>
        .closed call .threw ::
        if l.interrupted then .left call false :: moments schedule (next (.threw thrown) state) l
        else
          let (ending, state', l') := run schedule (describe thrown state) l
          let outcome := Outcome.fail name (ending.text?.getD "")
          moments schedule (describe thrown state) l ++
            .recorded (.outcome outcome) :: .left call true ::
              moments schedule (next (.returned none) state') (l'.record (.outcome outcome)))

end Behaviour

namespace Moment

def event? : Moment → Option Event
  | .recorded e => some e
  | _ => none

/-- Whether a call of `pm.test` returned. -/
def isReturn : Moment → Bool
  | .left _ returned => returned
  | _ => false

/-- The test of which a call has come to its end, if it was called rightly and returned. -/
def completed? : Moment → Option String
  | .left ⟨name, true⟩ true => name
  | _ => none

end Moment

/-- Whether functions of tests are ended from outside only after the script was told to end: the
interpreter ends nothing of its own accord. -/
def withinLimits : (late : Bool) → List Moment → Bool
  | _, [] => true
  | _, .told :: rest => withinLimits true rest
  | late, .closed _ .interrupted :: rest => late && withinLimits late rest
  | late, _ :: rest => withinLimits late rest

theorem withinLimits_append (late : Bool) (ms ms' : List Moment) :
    withinLimits late (ms ++ ms') =
      (withinLimits late ms && withinLimits (late || decide (.told ∈ ms)) ms') := by
  fun_induction withinLimits late ms with
  | case1 => simp
  | case2 late rest ih => simp [withinLimits, ih]
  | case3 late call rest ih => simp [withinLimits, ih, Bool.and_assoc]
  | case4 late m rest untold unended ih =>
    have other : .told ≠ m := fun h => untold h.symm
    simp [withinLimits, ih, other]

/-- Stretches of a run in which every call of `pm.test` is accounted for, from a moment to another
at which the script was or was not told to end. -/
inductive Accounted : Bool → List Moment → Bool → Prop where
  | nil {late} : Accounted late [] late
  | told {late rest late'} (h : Accounted true rest late') : Accounted late (.told :: rest) late'
  | logged {late level line rest late'} (h : Accounted late rest late') :
      Accounted late (.recorded (.logged level line) :: rest) late'
  | wrote {late w rest late'} (h : Accounted late rest late') :
      Accounted late (.recorded (.wrote w) :: rest) late'
  /-- A call that is wrong leaves an error and returns. -/
  | misused {late call reason rest late'} (wrong : call.name = none ∨ call.callable = false)
      (h : Accounted late rest late') :
      Accounted late
        (.called call :: .recorded (.misuse reason) :: .left call true :: rest) late'
  /-- A call runs its function, describes what that has thrown, leaves an outcome and returns. -/
  | ran {late name inner mid closing description mid' message rest late'}
      (ended : closing ≠ .interrupted) (called : Accounted late inner mid)
      (described : Accounted mid description mid') (quiet : closing = .returned → description = [])
      (h : Accounted mid' rest late') :
      Accounted late
        (.called ⟨some name, true⟩ :: .entered ⟨some name, true⟩ ::
          (inner ++ .closed ⟨some name, true⟩ closing :: (description ++
            .recorded (.outcome ⟨name, closing = .returned, message⟩) ::
            .left ⟨some name, true⟩ true :: rest))) late'
  /-- A failure of its function after the script was told to end is passed on. -/
  | passedOn {late name inner closing rest late'} (failed : closing ≠ .returned)
      (called : Accounted late inner true) (h : Accounted true rest late') :
      Accounted late
        (.called ⟨some name, true⟩ :: .entered ⟨some name, true⟩ ::
          (inner ++ .closed ⟨some name, true⟩ closing :: .left ⟨some name, true⟩ false ::
            rest)) late'

namespace Accounted

variable {late mid late' : Bool} {ms ms' : List Moment}

theorem append (h : Accounted late ms mid) (h' : Accounted mid ms' late') :
    Accounted late (ms ++ ms') late' := by
  induction h with
  | nil => exact h'
  | told _ ih => exact .told (ih h')
  | logged _ ih => exact .logged (ih h')
  | wrote _ ih => exact .wrote (ih h')
  | misused wrong _ ih => exact .misused wrong (ih h')
  | ran ended called described quiet _ _ _ ih =>
    simp only [List.cons_append, List.append_assoc]
    exact .ran ended called described quiet (ih h')
  | passedOn failed called _ _ ih =>
    simp only [List.cons_append, List.append_assoc]
    exact .passedOn failed called (ih h')

/-- The script was told to end by the end of a stretch, if not before it, then within it. -/
theorem late_eq (h : Accounted late ms late') : late' = (late || decide (.told ∈ ms)) := by
  induction h with
  | nil => simp
  | told _ ih => simp [ih]
  | logged _ ih => simp [ih]
  | wrote _ ih => simp [ih]
  | misused _ _ ih => simp [ih]
  | ran _ _ _ _ _ ihc ihd ih => simp [ih, ihd, ihc, Bool.or_assoc]
  | passedOn _ _ _ ihc ih => simp [ih, ←Bool.or_assoc, ←ihc]

/-- The outcomes stand in the order in which their calls returned. -/
theorem names_eq (h : Accounted late ms late') :
    ((ms.filterMap (·.event?)).filterMap (·.outcome?)).map (·.name) =
      ms.filterMap (·.completed?) := by
  induction h with
  | @misused late call reason rest late' wrong _ ih =>
    rcases call with ⟨name, _ | _⟩
    · simp_all [Moment.event?, Moment.completed?, Event.outcome?]
    · obtain rfl : name = none := by simpa using wrong
      simp_all [Moment.event?, Moment.completed?, Event.outcome?]
  | _ => simp_all [Moment.event?, Moment.completed?, Event.outcome?]

/-- Each call that returned has left an outcome or an error, and nothing else has. -/
theorem returns_eq (h : Accounted late ms late') :
    ms.countP (·.isReturn) =
      ((ms.filterMap (·.event?)).filterMap (·.outcome?)).length +
        ((ms.filterMap (·.event?)).filterMap (·.misuse?)).length := by
  induction h with
  | misused =>
    simp_all [Moment.event?, Moment.isReturn, Event.outcome?, Event.misuse?]
    omega
  | ran =>
    simp_all [Moment.event?, Moment.isReturn, Event.outcome?, Event.misuse?]
    omega
  | passedOn =>
    simp_all [Moment.event?, Moment.isReturn]
    omega
  | _ => simp_all [Moment.event?, Moment.isReturn, Event.outcome?, Event.misuse?]

end Accounted

namespace Behaviour

variable {σ θ : Type} {schedule : Nat → Bool}

/-- The journal of a run holds exactly what its moments record. -/
theorem journal_moments (schedule : Nat → Bool) (b : Behaviour σ θ) (l : Ledger) :
    (run schedule b l).2.2.journal =
      ((moments schedule b l).filterMap (·.event?)).reverse ++ l.journal := by
  fun_induction moments schedule b l with
  | case1 => rfl
  | case2 next l ih =>
    have silent :
        (if (l.poll schedule).1 then [Moment.told] else []).filterMap (·.event?) = [] := by
      split
      · rfl
      · rfl
    rw [List.filterMap_append, silent]
    exact ih
  | case3 scope key next l ih => exact ih
  | case4 w next l ih => simpa [Moment.event?, run] using ih
  | case5 level line next l ih => simpa [Moment.event?, run] using ih
  | case6 body next l ending state l' h shown rest =>
    simp only [h] at shown
    simp [run, h, rest, shown]
  | case7 state callback describe next l call ih => simpa [Moment.event?, run] using ih
  | case8 state name describe next l call ih => simpa [Moment.event?, run] using ih
  | case9 state name callback describe next l call called returned interrupted threw described
      failed =>
    simp only [run]
    rcases h : run schedule callback l with ⟨text | thrown | _, state', l'⟩
    all_goals rw [h] at called
    · simp_all [Moment.event?]
    · by_cases late : l'.interrupted
      · simp_all [Moment.event?]
      · simp_all [Moment.event?]
    · simp_all [Moment.event?]

/-- Every call of a run within the limits is accounted for. -/
theorem accounted_moments (schedule : Nat → Bool) (b : Behaviour σ θ) (l : Ledger)
    (within : withinLimits l.interrupted (moments schedule b l) = true) :
    Accounted l.interrupted (moments schedule b l) (run schedule b l).2.2.interrupted := by
  -- where one stretch ends and another begins, `late_eq` of the first makes the limits of the
  -- second those of the ledger that it begins with
  fun_induction moments schedule b l with
  | case1 => exact .nil
  | case2 next l ih =>
    rw [Ledger.interrupted_poll] at ih
    unfold run
    cases hp : (l.poll schedule).1 with
    | false =>
      simp only [hp, Bool.or_false] at ih within ⊢
      exact ih within
    | true =>
      simp only [hp, Bool.or_true] at ih within ⊢
      exact .told (ih within)
  | case3 scope key next l ih => exact ih within
  | case4 w next l ih => exact .wrote (ih within)
  | case5 level line next l ih => exact .logged (ih within)
  | case6 body next l ending state l' h shown rest =>
    rw [withinLimits_append, Bool.and_eq_true] at within
    have shown := shown within.1
    rw [h] at shown
    rw [←shown.late_eq] at within
    simp only [run, h]
    exact shown.append (rest within.2)
  | case7 state callback describe next l call ih => exact .misused (.inl rfl) (ih within)
  | case8 state name describe next l call ih => exact .misused (.inr rfl) (ih within)
  | case9 state name callback describe next l call called returned interrupted threw described
      failed =>
    change withinLimits l.interrupted (moments schedule callback l ++ _) = true at within
    rw [withinLimits_append, Bool.and_eq_true] at within
    have called := called within.1
    rw [←called.late_eq] at within
    simp only [run]
    rcases h : run schedule callback l with ⟨text | thrown | _, state', l'⟩
    all_goals
      simp only [h] at called within
      replace within := within.2
    · exact .ran (by simp) called .nil (fun _ => rfl) (returned state' l' within)
    · by_cases late : l'.interrupted
      · simp only [if_pos late] at within ⊢
        have rest := threw thrown state' l' within
        rw [late] at called rest
        exact .passedOn (by simp) called rest
      · simp only [if_neg late] at within ⊢
        change
          withinLimits l'.interrupted (moments schedule (describe thrown state') l' ++ _) = true
          at within
        rw [withinLimits_append, Bool.and_eq_true] at within
        have described := described thrown state' l' within.1
        rw [←described.late_eq] at within
        exact .ran (by simp) called described (by simp) (failed _ _ _ within.2)
    · change (l'.interrupted && withinLimits l'.interrupted _) = true at within
      rw [Bool.and_eq_true] at within
      have rest := interrupted state' l' within.2
      rw [within.1] at called rest
      exact .passedOn (by simp) called rest

end Behaviour

/-- A stretch of a run in which every call of `pm.test` is accounted for. -/
def Whole (ms : List Moment) : Prop := ∃ late late', Accounted late ms late'

/-- What follows a call of `pm.test` in a script that was told to end before the call or was not. -/
structure Settled (late : Prop) (call : TestCall) (after : List Moment) : Prop where
  /-- A call that is wrong runs nothing, leaves one error and returns. -/
  wrong : call.name = none ∨ call.callable = false →
    ∃ reason rest, after = .recorded (.misuse reason) :: .left call true :: rest
  /-- Any other call runs its function once. Unless the script was told to end by then, it leaves
  one outcome after all that the function has recorded, and returns. -/
  right : ∀ name, call = ⟨some name, true⟩ →
    ∃ inner closing rest, Whole inner ∧
      after = .entered call :: (inner ++ .closed call closing :: rest) ∧
      (¬late → .told ∉ inner →
        closing ≠ .interrupted ∧
        ∃ description message rest', Whole description ∧
          (closing = .returned → description = []) ∧
          rest = description ++ .recorded (.outcome ⟨name, closing = .returned, message⟩) ::
            .left call true :: rest')

namespace Settled

variable {late late' : Prop} {call : TestCall} {after : List Moment}

theorem mono (h : Settled late call after) (hl : late → late') : Settled late' call after where
  wrong := h.wrong
  right name hc := by
    obtain ⟨inner, closing, rest, whole, ha, timely⟩ := h.right name hc
    exact ⟨inner, closing, rest, whole, ha, fun untold => timely (fun told => untold (hl told))⟩

theorem append (h : Settled late call after) (more : List Moment) :
    Settled late call (after ++ more) where
  wrong hw := by
    obtain ⟨reason, rest, rfl⟩ := h.wrong hw
    exact ⟨reason, rest ++ more, rfl⟩
  right name hc := by
    obtain ⟨inner, closing, rest, whole, rfl, timely⟩ := h.right name hc
    refine ⟨inner, closing, rest ++ more, whole, by simp, fun untold silent => ?_⟩
    obtain ⟨ended, description, message, rest', described, quiet, rfl⟩ := timely untold silent
    exact ⟨ended, description, message, rest' ++ more, described, quiet, by simp⟩

end Settled

/-- A call in a row that begins with one is that one or a later one. -/
theorem split_called {call call' : TestCall} {ms before after : List Moment}
    (h : .called call' :: ms = before ++ .called call :: after) :
    (before = [] ∧ call = call' ∧ after = ms) ∨
      ∃ rest, before = .called call' :: rest ∧ ms = rest ++ .called call :: after := by
  rcases List.cons_eq_append_iff.1 h with ⟨hb, hc⟩ | later
  · obtain ⟨first, rest⟩ := List.cons.inj hc
    exact .inl ⟨hb, Moment.called.inj first, rest⟩
  · exact .inr later

/-- Each call within a stretch that is accounted for is settled. -/
theorem Accounted.settled {late late' : Bool} {ms : List Moment} (h : Accounted late ms late')
    {before : List Moment} {call : TestCall} {after : List Moment}
    (hm : ms = before ++ .called call :: after) :
    Settled (late = true ∨ .told ∈ before) call after := by
  induction h generalizing before after with
  | nil => simp at hm
  | told _ ih =>
    obtain ⟨_, rfl, hr⟩ := split_cons hm nofun
    exact (ih hr).mono (by simp)
  | logged _ ih =>
    obtain ⟨_, rfl, hr⟩ := split_cons hm nofun
    exact (ih hr).mono (by simp)
  | wrote _ ih =>
    obtain ⟨_, rfl, hr⟩ := split_cons hm nofun
    exact (ih hr).mono (by simp)
  | misused wrong _ ih =>
    rcases split_called hm with ⟨rfl, rfl, rfl⟩ | ⟨_, rfl, hrecorded⟩
    · refine ⟨fun _ => ⟨_, _, rfl⟩, fun name hc => ?_⟩
      rw [hc] at wrong
      simp at wrong
    · obtain ⟨_, rfl, hleft⟩ := split_cons hrecorded nofun
      obtain ⟨_, rfl, hr⟩ := split_cons hleft nofun
      exact (ih hr).mono (by simp)
  | ran ended called described quiet _ ihc ihd ih =>
    -- the call is this one, or within its function, or within the description, or later
    rcases split_called hm with ⟨rfl, rfl, rfl⟩ | ⟨_, rfl, hentered⟩
    · refine ⟨by simp, fun name hc => ?_⟩
      obtain rfl := Option.some.inj (congrArg TestCall.name hc)
      exact ⟨_, _, _, ⟨_, _, called⟩, rfl, fun _ _ =>
        ⟨ended, _, _, _, ⟨_, _, described⟩, quiet, rfl⟩⟩
    obtain ⟨_, rfl, hinner⟩ := split_cons hentered nofun
    rcases split_append hinner with ⟨tail, hi, rfl⟩ | ⟨_, rfl, hclosed⟩
    · exact ((ihc hi).append _).mono (by simp)
    obtain ⟨_, rfl, hdescription⟩ := split_cons hclosed nofun
    rcases split_append hdescription with ⟨tail, hd, rfl⟩ | ⟨_, rfl, hrecorded⟩
    · exact ((ihd hd).append _).mono (by simp [called.late_eq, or_assoc])
    obtain ⟨_, rfl, hleft⟩ := split_cons hrecorded nofun
    obtain ⟨_, rfl, hr⟩ := split_cons hleft nofun
    exact (ih hr).mono (by simp [described.late_eq, called.late_eq, or_assoc])
  | passedOn failed called _ ihc ih =>
    have told := called.late_eq
    rw [eq_comm, Bool.or_eq_true, decide_eq_true_iff] at told
    rcases split_called hm with ⟨rfl, rfl, rfl⟩ | ⟨_, rfl, hentered⟩
    · refine ⟨by simp, fun name _ => ⟨_, _, _, ⟨_, _, called⟩, rfl, fun untold silent => ?_⟩⟩
      exact (untold (.inl (told.resolve_right silent))).elim
    obtain ⟨_, rfl, hinner⟩ := split_cons hentered nofun
    rcases split_append hinner with ⟨tail, hi, rfl⟩ | ⟨_, rfl, hclosed⟩
    · exact ((ihc hi).append _).mono (by simp)
    obtain ⟨_, rfl, hleft⟩ := split_cons hclosed nofun
    obtain ⟨_, rfl, hr⟩ := split_cons hleft nofun
    refine (ih hr).mono (fun _ => told.imp_right fun within => ?_)
    simp [within]

namespace Launch

variable {σ θ : Type}

/-- The calls of `pm.test` in a run of a whole script, with all that the script leaves. The error
that it ends with is described in the end, by code that may call `pm.test` as well. -/
def moments (schedule : Nat → Bool) (launch : Launch σ θ) (l : Ledger) : List Moment :=
  let (ending, state, l') := launch.body.run schedule l
  launch.body.moments schedule l ++
    match launch.description? ending state with
    | some description => description.moments schedule l'
    | none => []

theorem accounted_moments (schedule : Nat → Bool) (launch : Launch σ θ) (l : Ledger)
    (within : withinLimits l.interrupted (launch.moments schedule l) = true) :
    Accounted l.interrupted (launch.moments schedule l)
      (launch.conclude schedule l).2.interrupted := by
  unfold moments at within ⊢
  rw [withinLimits_append, Bool.and_eq_true] at within
  have body := Behaviour.accounted_moments schedule launch.body l within.1
  rw [←body.late_eq] at within
  unfold conclude
  rcases h : launch.body.run schedule l with ⟨ending, state, l'⟩
  simp only [h] at body within ⊢
  cases hd : launch.description? ending state with
  | none => exact body.append .nil
  | some description =>
    simp only [hd] at within
    exact body.append (Behaviour.accounted_moments schedule description l' within.2)

theorem journal_moments (schedule : Nat → Bool) (launch : Launch σ θ) (l : Ledger) :
    (launch.conclude schedule l).2.journal =
      ((launch.moments schedule l).filterMap (·.event?)).reverse ++ l.journal := by
  have body := Behaviour.journal_moments schedule launch.body l
  unfold conclude moments
  rcases h : launch.body.run schedule l with ⟨ending, state, l'⟩
  simp only [h] at body ⊢
  cases launch.description? ending state with
  | none => simpa using body
  | some description =>
    have described := Behaviour.journal_moments schedule description l'
    simp [described, body]

/-- A script has timed out exactly when it was told to end. -/
theorem timedOut_report (deadline : Nat) (schedule : Nat → Bool) (view : View)
    (launch : Launch σ θ) :
    (report deadline schedule view (.ok launch)).result.timedOut =
      (launch.conclude schedule { view }).2.interrupted := by
  have judged := Judged.of_ends (ends_report deadline schedule view (.ok launch))
    (journal_report deadline schedule view (.ok launch))
  rw [Bool.eq_iff_iff, judged.timedOut, told_iff, (launch.conclude_ledger schedule { view }).2]
  rfl

end Launch

/-- The errors of wrong calls are those that a script has left before it ended. -/
theorem Report.countP_errors {r : Report} (h : ∀ reason, r.failure ≠ some (.invalidTest reason)) :
    r.result.errors.countP (· matches .invalidTest _) =
      (r.journal.filterMap (·.misuse?)).length := by
  have recorded : r.journal = (r.journal.map Mark.recorded).filterMap (·.event?) := by
    simp [List.filterMap_map, Mark.event?]
  obtain ⟨-, misuses, -⟩ := Report.parts_eq recorded
  have ending : r.failure.toList.countP (· matches .invalidTest _) = 0 := by
    rcases hf : r.failure with _ | (_ | _ | reason | _)
    · rfl
    · rfl
    · rfl
    · exact absurd hf (h reason)
    · rfl
  unfold Report.result
  rw [List.countP_append, ending, misuses, Nat.add_zero]
  simp [List.countP_map, Function.comp_def]

/-- How the function that tests are made with is called with these arguments. -/
def TestCall.ofArguments (s : Store) (args : List Value) : TestCall where
  name :=
    match Library.nth args 0 with
    | .text u => Host.shownText u
    | _ => none
  callable := s.isCallable (Library.nth args 1)

namespace Host

variable (jump : Step → Step.Bodies → Step.Entered → Step.Full) (args : List Value) (m : Machine)
  (k : Value → Store → Step) (h : Fault → Store → Step) (s : Store) (bodies : Step.Bodies)
  (entered : Step.Entered)

/-- A script of the engine calls `pm.test` with these arguments: their name and function are those
of the call, the function is called with nothing, and the script goes on with no value when the call
returns and with the failure when that is passed on. -/
def CallsTest (b : Step.Full) : Prop :=
  ∃ describe next,
    b = .test (s, bodies) (TestCall.ofArguments s args).name
      (if (TestCall.ofArguments s args).callable then
        some (Step.behaviourWith jump
          (Exec.alone m
            (do
              let _ ← Exec.call (Library.nth args 1) .undefined []
              return none)
            s) bodies [])
      else none)
      describe next ∧
    (∀ text left, next (.returned text) left =
      Step.behaviourWith jump (k .undefined left.1) left.2 entered) ∧
    ∀ thrown left, next (.threw thrown) left =
      Step.behaviourWith jump (h (.thrown thrown) left.1) left.2 entered

theorem callsTest_testCode (this : Value) :
    CallsTest jump args m k h s bodies entered
      (Step.behaviourWith jump (testCode this args m k h s) bodies entered) := by
  unfold CallsTest testCode TestCall.ofArguments
  cases hc : s.isCallable (Library.nth args 1)
  all_goals
    simp only [bind, pure, Exec.bind, Exec.pure, Exec.isCallable, Exec.read, hc, if_true,
      Bool.false_eq_true, if_false, Exec.test]
    rw [Step.behaviourWith]
    exact ⟨_, _, rfl, fun _ _ => rfl, fun _ _ => rfl⟩

end Host

namespace Launch

/-- Every call of `pm.test` is accounted for once, in scripts that are ended from outside only when
they are told to end: a call that is wrong leaves an error and nothing else, any other call runs its
function once and leaves its outcome after that, unless the script was told to end by then, and a
failure of the function goes no further. So the calls that returned are as many as the outcomes and
the errors of wrong calls, and outcomes stand in the order in which calls returned. Calls in scripts
of the engine are among those that this is about. -/
theorem testCalls_accounted {σ θ : Type} (deadline : Nat) (schedule : Nat → Bool) (view : View)
    (launch : Launch σ θ)
    (within : withinLimits false (launch.moments schedule { view }) = true) :
    let moments := launch.moments schedule { view }
    let report := Launch.report deadline schedule view (.ok launch)
    Whole moments ∧
    (∀ before call after, moments = before ++ .called call :: after →
      Settled (.told ∈ before) call after) ∧
    moments.countP (·.isReturn) =
      report.result.outcomes.length +
        report.result.errors.countP (· matches .invalidTest _) ∧
    report.result.outcomes.map (·.name) = moments.filterMap (·.completed?) ∧
    report.journal = moments.filterMap (·.event?) ∧
    (report.result.timedOut = true ↔ .told ∈ moments) ∧
    ∀ (jump : Step → Step.Bodies → Step.Entered → Step.Full) (this : Value) (args : List Value)
      (m : Machine) (k : Value → Store → Step) (h : Fault → Store → Step) (s : Store)
      (bodies : Step.Bodies) (entered : Step.Entered),
      Host.CallsTest jump args m k h s bodies entered
        (Step.behaviourWith jump (Host.testCode this args m k h s) bodies entered) := by
  intro moments report
  have accounted := launch.accounted_moments schedule { view } within
  have journal : report.journal = moments.filterMap (·.event?) := by
    have concluded := launch.journal_moments schedule { view }
    unfold report Launch.report
    dsimp only
    rw [concluded, List.append_nil, List.reverse_reverse]
  have ending : ∀ reason, report.failure ≠ some (.invalidTest reason) :=
    (ends_report deadline schedule view (.ok launch)).ne_invalidTest
  refine ⟨⟨_, _, accounted⟩, ?_, ?_, ?_, journal, ?_, fun jump this args m k h s bodies entered =>
    Host.callsTest_testCode jump args m k h s bodies entered this⟩
  · intro before call after h
    exact (accounted.settled h).mono (fun told => told.resolve_left nofun)
  · rw [Report.countP_errors ending, accounted.returns_eq]
    unfold Report.result
    rw [journal]
  · rw [←accounted.names_eq]
    unfold Report.result
    rw [journal]
  · rw [timedOut_report, accounted.late_eq]
    change (false || decide (Moment.told ∈ moments)) = true ↔ _
    rw [Bool.false_or, decide_eq_true_iff]

/-- A test within which `pm.test` is called wrongly and another test fails. -/
def nestedTests : String :=
  "pm.test('outer', () => \x7b pm.test(); pm.test('inner', () => \x7b throw 'wrong'; \x7d); \x7d);"

/-- Three calls return, the inner one of the two tests first. -/
theorem testCalls_accounted_nestedTests :
    ∃ launch, Script.launch ⟨30000, 0⟩ nestedTests .test none = .ok launch ∧
      let moments := launch.moments (fun _ => false) { view := ⟨fun _ _ => none⟩ }
      let report := Launch.report 30000 (fun _ => false) ⟨fun _ _ => none⟩ (.ok launch)
      withinLimits false moments = true ∧
      report.result =
        { outcomes := [.fail "inner" "wrong", .pass "outer"], errors := [.invalidTest missingName] } ∧
      moments.countP (·.isReturn) = 3 ∧
      moments.filterMap (·.completed?) = ["inner", "outer"] := by
  have ran : ∃ launch ∈ (Script.launch ⟨30000, 0⟩ nestedTests .test none).toOption,
      withinLimits false (launch.moments (fun _ => false) { view := ⟨fun _ _ => none⟩ }) = true ∧
      (Launch.report 30000 (fun _ => false) ⟨fun _ _ => none⟩ (.ok launch)).result =
        { outcomes := [.fail "inner" "wrong", .pass "outer"]
          errors := [.invalidTest missingName] } := by
    decide +kernel
  obtain ⟨launch, launched, within, result⟩ := exists_of_toOption ran
  have accounted := testCalls_accounted 30000 (fun _ => false) ⟨fun _ _ => none⟩ launch within
  obtain ⟨-, -, returns, names, -⟩ := accounted
  rw [result] at returns names
  exact ⟨launch, launched, within, result, returns, names.symm⟩

end Launch

end CollectionRunner.Script
