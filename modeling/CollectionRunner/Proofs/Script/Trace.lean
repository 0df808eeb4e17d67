import CollectionRunner.Proofs.Watchdog.Interleaving
import CollectionRunner.Script.Report

namespace CollectionRunner.Script

/-- One that stands in a row after another one stands in the rest of it. -/
theorem split_cons {α : Type} {x y : α} {ys before after : List α}
    (h : y :: ys = before ++ x :: after) (hn : y ≠ x) :
    ∃ rest, before = y :: rest ∧ ys = rest ++ x :: after := by
  rcases List.cons_eq_append_iff.1 h with ⟨-, hc⟩ | found
  · exact absurd (List.cons.inj hc).1.symm hn
  · exact found

/-- One that stands in two rows stands in the first or in the second. -/
theorem split_append {α : Type} {xs ys before after : List α} {x : α}
    (h : xs ++ ys = before ++ x :: after) :
    (∃ rest, xs = before ++ x :: rest ∧ after = rest ++ ys) ∨
      ∃ rest, before = xs ++ rest ∧ ys = rest ++ x :: after := by
  rcases List.append_eq_append_iff.1 h with later | ⟨tail, hx, hy⟩
  · exact .inr later
  · rcases List.cons_eq_append_iff.1 hy with ⟨rfl, rfl⟩ | ⟨rest, rfl, rfl⟩
    · exact .inr ⟨[], by simpa using hx.symm, rfl⟩
    · exact .inl ⟨rest, hx, rfl⟩

/-- What there is of something that may not have been set up was set up. -/
theorem exists_of_toOption {α : Type} {setup : Except String α} {P : α → Prop}
    (h : ∃ a ∈ setup.toOption, P a) : ∃ a, setup = .ok a ∧ P a := by
  obtain ⟨a, mem, ha⟩ := h
  cases setup with
  | error reason => cases mem
  | ok b =>
    obtain rfl := Option.some.inj mem
    exact ⟨b, rfl, ha⟩

/-- Why script code runs within a call of its host. -/
inductive Reentry where
  /-- It is the function of a test. -/
  | test
  /-- It describes what was thrown. -/
  | description
  /-- It gives the text of a value. -/
  | showing
  deriving DecidableEq, Repr

/-- What can be told of a run. -/
inductive Mark where
  /-- Within these calls of its host, the outermost first, a script asked whether it has to end. -/
  | answered (around : List Reentry) (told : Bool)
  | recorded (e : Event)
  /-- A call of the host was left: it returned, or a failure was passed on. -/
  | left (call : Reentry) (returned : Bool)
  deriving DecidableEq, Repr

namespace Mark

def event? : Mark → Option Event
  | .recorded e => some e
  | _ => none

/-- Whether a script was told that it has to end. -/
def isInterrupt : Mark → Bool
  | .answered _ told => told
  | _ => false

end Mark

namespace Ledger

variable (l : Ledger) (schedule : Nat → Bool)

@[simp] theorem journal_record (e : Event) : (l.record e).journal = e :: l.journal := rfl

@[simp] theorem journal_write (w : Write) : (l.write w).journal = .wrote w :: l.journal := rfl

@[simp] theorem journal_poll : (l.poll schedule).2.journal = l.journal := rfl

@[simp] theorem interrupted_record (e : Event) : (l.record e).interrupted = l.interrupted := rfl

@[simp] theorem interrupted_write (w : Write) : (l.write w).interrupted = l.interrupted := rfl

@[simp] theorem interrupted_poll :
    (l.poll schedule).2.interrupted = (l.interrupted || (l.poll schedule).1) := by
  unfold Ledger.poll Ledger.interrupted
  simp only [Watchdog.poll_eq]
  split
  · rw [Watchdog.interrupted_timeout]
  · rfl

end Ledger

namespace Behaviour

variable {σ θ : Type} {schedule : Nat → Bool}

/-- What happens in a run of a script, in order, within the given calls of its host. -/
def trace (schedule : Nat → Bool) (around : List Reentry) : Behaviour σ θ → Ledger → List Mark
  | .ended _ _, _ => []
  | .poll next, l =>
    .answered around (l.poll schedule).1 ::
      trace schedule around (next (l.poll schedule).1) (l.poll schedule).2
  | .get scope key next, l => trace schedule around (next (l.view.get? scope key)) l
  | .set w next, l => .recorded (.wrote w) :: trace schedule around next (l.write w)
  | .log level line next, l =>
    .recorded (.logged level line) :: trace schedule around next (l.record (.logged level line))
  | .attempt body next, l =>
    let (ending, state, l') := run schedule body l
    trace schedule (around ++ [.showing]) body l ++
      .left .showing true :: trace schedule around (next ending.text? state) l'
  | .test state none _ _ next, l =>
    .recorded (.misuse missingName) ::
      trace schedule around (next (.returned none) state) (l.record (.misuse missingName))
  | .test state (some name) none _ next, l =>
    .recorded (.misuse (missingCallback name)) ::
      trace schedule around (next (.returned none) state)
        (l.record (.misuse (missingCallback name)))
  | .test _ (some name) (some callback) describe next, l =>
    trace schedule (around ++ [.test]) callback l ++
    match run schedule callback l with
    | (.returned _, state, l) =>
      .recorded (.outcome (.pass name)) :: .left .test true ::
        trace schedule around (next (.returned none) state) (l.record (.outcome (.pass name)))
    | (.interrupted, state, l) =>
      .left .test false :: trace schedule around (next .interrupted state) l
    | (.threw thrown, state, l) =>
      if l.interrupted then
        .left .test false :: trace schedule around (next (.threw thrown) state) l
      else
        let (ending, state', l') := run schedule (describe thrown state) l
        let outcome := Outcome.fail name (ending.text?.getD "")
        trace schedule (around ++ [.test, .description]) (describe thrown state) l ++
          .left .description true :: .recorded (.outcome outcome) :: .left .test true ::
            trace schedule around (next (.returned none) state') (l'.record (.outcome outcome))

/-- How a script runs within calls of its host: the marks of the run, how it ends, its last state
and what the host knows then. -/
inductive Runs (schedule : Nat → Bool) : List Reentry → Behaviour σ θ → Ledger → List Mark →
    Ending θ → σ → Ledger → Prop where
  | ended {around ending state l} : Runs schedule around (.ended ending state) l [] ending state l
  | poll {around next l marks ending state l'}
      (rest : Runs schedule around (next (l.poll schedule).1) (l.poll schedule).2
        marks ending state l') :
      Runs schedule around (.poll next) l (.answered around (l.poll schedule).1 :: marks)
        ending state l'
  | get {around scope key next l marks ending state l'}
      (rest : Runs schedule around (next (l.view.get? scope key)) l marks ending state l') :
      Runs schedule around (.get scope key next) l marks ending state l'
  | set {around w next l marks ending state l'}
      (rest : Runs schedule around next (l.write w) marks ending state l') :
      Runs schedule around (.set w next) l (.recorded (.wrote w) :: marks) ending state l'
  | log {around level line next l marks ending state l'}
      (rest : Runs schedule around next (l.record (.logged level line)) marks ending state l') :
      Runs schedule around (.log level line next) l (.recorded (.logged level line) :: marks)
        ending state l'
  | attempt {around body next l marks ending state l' marks' ending' state' l''}
      (shown : Runs schedule (around ++ [.showing]) body l marks ending state l')
      (rest : Runs schedule around (next ending.text? state) l' marks' ending' state' l'') :
      Runs schedule around (.attempt body next) l (marks ++ .left .showing true :: marks')
        ending' state' l''
  | nameless {around state callback describe next l marks ending state' l'}
      (rest : Runs schedule around (next (.returned none) state) (l.record (.misuse missingName))
        marks ending state' l') :
      Runs schedule around (.test state none callback describe next) l
        (.recorded (.misuse missingName) :: marks) ending state' l'
  | idle {around state name describe next l marks ending state' l'}
      (rest : Runs schedule around (next (.returned none) state)
        (l.record (.misuse (missingCallback name))) marks ending state' l') :
      Runs schedule around (.test state (some name) none describe next) l
        (.recorded (.misuse (missingCallback name)) :: marks) ending state' l'
  | passed {around state name callback describe next l marks text state' l' marks' ending' state''
        l''}
      (called : Runs schedule (around ++ [.test]) callback l marks (.returned text) state' l')
      (rest : Runs schedule around (next (.returned none) state')
        (l'.record (.outcome (.pass name))) marks' ending' state'' l'') :
      Runs schedule around (.test state (some name) (some callback) describe next) l
        (marks ++ .recorded (.outcome (.pass name)) :: .left .test true :: marks')
        ending' state'' l''
  | unwound {around state name callback describe next l marks state' l' marks' ending' state'' l''}
      (called : Runs schedule (around ++ [.test]) callback l marks .interrupted state' l')
      (rest : Runs schedule around (next .interrupted state') l' marks' ending' state'' l'') :
      Runs schedule around (.test state (some name) (some callback) describe next) l
        (marks ++ .left .test false :: marks') ending' state'' l''
  | passedOn {around state name callback describe next l marks thrown state' l' marks' ending'
        state'' l''}
      (called : Runs schedule (around ++ [.test]) callback l marks (.threw thrown) state' l')
      (late : l'.interrupted = true)
      (rest : Runs schedule around (next (.threw thrown) state') l' marks' ending' state'' l'') :
      Runs schedule around (.test state (some name) (some callback) describe next) l
        (marks ++ .left .test false :: marks') ending' state'' l''
  | failed {around state name callback describe next l marks thrown state' l' marks' ending' state''
        l'' marks'' ending'' state''' l'''}
      (called : Runs schedule (around ++ [.test]) callback l marks (.threw thrown) state' l')
      (timely : l'.interrupted = false)
      (described : Runs schedule (around ++ [.test, .description]) (describe thrown state') l'
        marks' ending' state'' l'')
      (rest : Runs schedule around (next (.returned none) state'')
        (l''.record (.outcome (.fail name (ending'.text?.getD "")))) marks'' ending'' state'''
        l''') :
      Runs schedule around (.test state (some name) (some callback) describe next) l
        (marks ++ (marks' ++ .left .description true ::
          .recorded (.outcome (.fail name (ending'.text?.getD ""))) :: .left .test true :: marks''))
        ending'' state''' l'''

/-- Every run is told by its trace. -/
theorem runs_trace (schedule : Nat → Bool) (around : List Reentry) (b : Behaviour σ θ)
    (l : Ledger) :
    Runs schedule around b l (trace schedule around b l) (run schedule b l).1
      (run schedule b l).2.1 (run schedule b l).2.2 := by
  fun_induction trace schedule around b l with
  | case1 => exact .ended
  | case2 around next l ih => exact .poll ih
  | case3 around scope key next l ih => exact .get ih
  | case4 around w next l ih => exact .set ih
  | case5 around level line next l ih => exact .log ih
  | case6 around body next l ending state l' h shown rest =>
    rw [h] at shown
    simp only [run, h]
    exact .attempt shown rest
  | case7 around state callback describe next l ih => exact .nameless ih
  | case8 around state name describe next l ih => exact .idle ih
  | case9 around state name callback describe next l called returned interrupted threw described
      failed =>
    simp only [run]
    rcases h : run schedule callback l with ⟨text | thrown | _, state', l'⟩
    · rw [h] at called
      exact .passed called (returned state' l')
    · rw [h] at called
      by_cases late : l'.interrupted
      · simp only [late, if_true]
        exact .passedOn called late (threw thrown state' l')
      · simp only [late, if_false, Bool.false_eq_true]
        exact .failed called (by simpa using late) (described thrown state' l') (failed _ _ _)
    · rw [h] at called
      exact .unwound called (interrupted state' l')

namespace Runs

variable {around : List Reentry} {b : Behaviour σ θ} {l l' : Ledger} {marks : List Mark}
  {ending : Ending θ} {state : σ}

/-- The journal of a run holds exactly what its marks record. -/
theorem journal (h : Runs schedule around b l marks ending state l') :
    l'.journal = (marks.filterMap (·.event?)).reverse ++ l.journal := by
  induction h <;> simp_all [Mark.event?]

/-- A watchdog knows of an interrupt exactly when a script was told that it has to end. -/
theorem interrupted (h : Runs schedule around b l marks ending state l') :
    l'.interrupted = (l.interrupted || marks.any (·.isInterrupt)) := by
  induction h <;> simp_all [Mark.isInterrupt, Bool.or_assoc]

/-- Only calls that run tests pass a failure on. -/
theorem test_of_left (h : Runs schedule around b l marks ending state l') {call : Reentry}
    (failed : .left call false ∈ marks) : call = .test := by
  induction h <;> grind

end Runs

end Behaviour

namespace Launch

variable {σ θ : Type}

/-- What happens once a script has ended, when the error is described that it has ended with. -/
def epilogue (schedule : Nat → Bool) (launch : Launch σ θ) (l : Ledger) : List Mark :=
  let (ending, state, l) := launch.body.run schedule l
  match launch.description? ending state with
  | some description => description.trace schedule [.description] l ++ [.left .description true]
  | none => []

/-- What happens in a run of a whole script, in order. -/
def trace (schedule : Nat → Bool) (launch : Launch σ θ) (l : Ledger) : List Mark :=
  launch.body.trace schedule [] l ++ launch.epilogue schedule l

/-- What the host knows in the end is what the trace tells. -/
theorem conclude_ledger (schedule : Nat → Bool) (launch : Launch σ θ) (l : Ledger) :
    (launch.conclude schedule l).2.journal =
      ((launch.trace schedule l).filterMap (·.event?)).reverse ++ l.journal ∧
    (launch.conclude schedule l).2.interrupted =
      (l.interrupted || (launch.trace schedule l).any (·.isInterrupt)) := by
  have body := Behaviour.runs_trace schedule [] launch.body l
  unfold conclude trace epilogue
  rcases h : launch.body.run schedule l with ⟨ending, state, l'⟩
  simp only [h] at body ⊢
  cases launch.description? ending state with
  | none => simp [body.journal, body.interrupted]
  | some description =>
    have described := Behaviour.runs_trace schedule [.description] description l'
    simp [described.journal, described.interrupted, body.journal, body.interrupted, Mark.event?,
      Mark.isInterrupt, Bool.or_assoc]

end Launch

end CollectionRunner.Script
