import CollectionRunner.Proofs.Script.Trace
import CollectionRunner.Proofs.Variables.Setting

namespace CollectionRunner.Script

/-- The variables that a script has set so far, in order. -/
def Ledger.writes (l : Ledger) : List Write := l.journal.reverse.filterMap (·.write?)

@[simp] theorem Ledger.writes_wrote (l : Ledger) (w : Write) :
    (l.record (.wrote w)).writes = l.writes ++ [w] := by
  simp [writes, Event.write?]

theorem Ledger.writes_record (l : Ledger) {e : Event} (h : e.write? = none) :
    (l.record e).writes = l.writes := by
  simp [writes, h]

/-- What a host knows at first that is shown nothing of the variables. -/
def Ledger.blind : Ledger := { view := ⟨fun _ _ => none⟩ }

/-- What a host knows when it is shown what lists hold. -/
def Ledger.showing (l : Ledger) (lists : VariableLists) : Ledger := { l with view := lists.view }

theorem Ledger.poll_showing (schedule : Nat → Bool) (l : Ledger) (lists : VariableLists) :
    (l.showing lists).poll schedule =
      ((l.poll schedule).1, (l.poll schedule).2.showing lists) := rfl

theorem Ledger.write_showing (l : Ledger) (lists : VariableLists) (w : Write) :
    (l.showing lists).write w = (l.record (.wrote w)).showing (lists.set w) := by
  unfold showing
  rw [VariableLists.view_set]
  rfl

@[simp] theorem Ledger.interrupted_showing (l : Ledger) (lists : VariableLists) :
    (l.showing lists).interrupted = l.interrupted := rfl

namespace Behaviour

variable {σ θ : Type}

/-- Runs a script on lists of variables. What the host has been shown of them has no part in it. -/
def runOn (schedule : Nat → Bool) :
    Behaviour σ θ → VariableLists → Ledger → Ending θ × σ × VariableLists × Ledger
  | .ended ending state, lists, l => (ending, state, lists, l)
  | .poll next, lists, l =>
    let (told, l) := l.poll schedule
    runOn schedule (next told) lists l
  | .get scope key next, lists, l => runOn schedule (next (lists.get? scope key)) lists l
  | .set w next, lists, l => runOn schedule next (lists.set w) (l.record (.wrote w))
  | .log level line next, lists, l => runOn schedule next lists (l.record (.logged level line))
  | .attempt body next, lists, l =>
    let (ending, state, lists, l) := runOn schedule body lists l
    runOn schedule (next ending.text? state) lists l
  | .test state none _ _ next, lists, l =>
    runOn schedule (next (.returned none) state) lists (l.record (.misuse missingName))
  | .test state (some name) none _ next, lists, l =>
    runOn schedule (next (.returned none) state) lists (l.record (.misuse (missingCallback name)))
  | .test _ (some name) (some callback) describe next, lists, l =>
    match runOn schedule callback lists l with
    | (.returned _, state, lists, l) =>
      runOn schedule (next (.returned none) state) lists (l.record (.outcome (.pass name)))
    | (.interrupted, state, lists, l) => runOn schedule (next .interrupted state) lists l
    | (.threw thrown, state, lists, l) =>
      if l.interrupted then runOn schedule (next (.threw thrown) state) lists l
      else
        let (ending, state, lists, l) := runOn schedule (describe thrown state) lists l
        let failed := Outcome.fail name (ending.text?.getD "")
        runOn schedule (next (.returned none) state) lists (l.record (.outcome failed))

variable {schedule : Nat → Bool}

/-- The lists are at all times what setting the script's variables so far has made of them. -/
theorem lists_runOn (b : Behaviour σ θ) {start lists : VariableLists} {l : Ledger}
    (h : lists = start.setAll l.writes) :
    (b.runOn schedule lists l).2.2.1 = start.setAll (b.runOn schedule lists l).2.2.2.writes := by
  -- where script code runs in between, the script goes on from the lists that this code has left
  fun_induction runOn schedule b lists l with
  | case1 => exact h
  | case2 next lists l told l' hp ih => exact ih (h.trans (congrArg (start.setAll ·.2.writes) hp))
  | case3 scope key next lists l ih => exact ih h
  | case4 w next lists l ih =>
    refine ih ?_
    rw [Ledger.writes_wrote, VariableLists.setAll, List.foldl_append, h]
    rfl
  | case5 level line next lists l ih => exact ih (h.trans (by rw [Ledger.writes_record l rfl]))
  | case6 body next lists l ending state lists' l' hb shown rest =>
    rw [hb] at shown
    exact rest (shown h)
  | case7 state callback describe next lists l ih =>
    exact ih (h.trans (by rw [Ledger.writes_record l rfl]))
  | case8 state name describe next lists l ih =>
    exact ih (h.trans (by rw [Ledger.writes_record l rfl]))
  | case9 state name callback describe next lists l text state' lists' l' hc called rest =>
    rw [hc] at called
    exact rest ((called h).trans (by rw [Ledger.writes_record l' rfl]))
  | case10 state name callback describe next lists l state' lists' l' hc called rest =>
    rw [hc] at called
    exact rest (called h)
  | case11 state name callback describe next lists l thrown state' lists' l' hc _ called rest =>
    rw [hc] at called
    exact rest (called h)
  | case12 state name callback describe next lists l thrown state' lists' l' hc _ ending state''
      lists'' l'' hd failed called described rest =>
    rw [hc] at called
    rw [hd] at described
    exact rest ((described (called h)).trans (by rw [Ledger.writes_record l'' rfl]))

/-- A script goes on lists as it goes when it is shown what they hold. -/
theorem run_showing (b : Behaviour σ θ) (lists : VariableLists) (l : Ledger) :
    b.run schedule (l.showing lists) =
      let (ending, state, lists, l) := b.runOn schedule lists l
      (ending, state, l.showing lists) := by
  -- the host's view is that of the lists at all times, as setting changes both alike
  fun_induction runOn schedule b lists l with
  | case1 => rfl
  | case2 next lists l told l' hp ih =>
    rw [run, Ledger.poll_showing, hp]
    exact ih
  | case3 scope key next lists l ih => exact ih
  | case4 w next lists l ih =>
    rw [run, Ledger.write_showing]
    exact ih
  | case5 level line next lists l ih => exact ih
  | case6 body next lists l ending state lists' l' hb shown rest =>
    rw [hb] at shown
    rw [run, shown]
    exact rest
  | case7 state callback describe next lists l ih => exact ih
  | case8 state name describe next lists l ih => exact ih
  | case9 state name callback describe next lists l text state' lists' l' hc called rest =>
    rw [hc] at called
    rw [run, called]
    exact rest
  | case10 state name callback describe next lists l state' lists' l' hc called rest =>
    rw [hc] at called
    rw [run, called]
    exact rest
  | case11 state name callback describe next lists l thrown state' lists' l' hc late called rest =>
    rw [hc] at called
    rw [run, called]
    simp only [Ledger.interrupted_showing, late, if_true]
    exact rest
  | case12 state name callback describe next lists l thrown state' lists' l' hc timely ending
      state'' lists'' l'' hd failed called described rest =>
    rw [hc] at called
    rw [hd] at described
    rw [run, called]
    simp only [Ledger.interrupted_showing, timely, if_false, Bool.false_eq_true, described]
    exact rest

end Behaviour

namespace Launch

variable {σ θ : Type}

/-- What goes wrong when a script runs on lists of variables, the lists in the end and what the host
knows then. -/
def concludeOn (schedule : Nat → Bool) (launch : Launch σ θ) (lists : VariableLists) (l : Ledger) :
    Option ScriptError × VariableLists × Ledger :=
  let (ending, state, lists, l) := launch.body.runOn schedule lists l
  match launch.description? ending state with
  | none => (none, lists, l)
  | some description =>
    let (ending, _, lists, l) := description.runOn schedule lists l
    (some (.runtime (ending.text?.getD "")), lists, l)

/-- What is reported of a script that has ended, given what went wrong and what the host knows. -/
def reported (deadline : Nat) (failure : Option ScriptError) (l : Ledger) : Report where
  journal := l.journal.reverse
  failure := if l.interrupted then some (.timeout deadline) else failure

/-- Runs a script on lists of variables, for what it reports and the lists that it leaves. -/
def reportOn (deadline : Nat) (schedule : Nat → Bool) (lists : VariableLists) :
    Except String (Launch σ θ) → Report × VariableLists
  | .error reason => ({ failure := some (.setup reason) }, lists)
  | .ok launch =>
    let (failure, lists, l) := launch.concludeOn schedule lists .blind
    (reported deadline failure l, lists)

theorem conclude_showing (schedule : Nat → Bool) (launch : Launch σ θ) (lists : VariableLists)
    (l : Ledger) :
    launch.conclude schedule (l.showing lists) =
      let (failure, lists, l) := launch.concludeOn schedule lists l
      (failure, l.showing lists) := by
  unfold conclude concludeOn
  rw [Behaviour.run_showing]
  rcases launch.body.runOn schedule lists l with ⟨ending, state, lists', l'⟩
  dsimp only
  cases launch.description? ending state with
  | none => rfl
  | some description => simp only [Behaviour.run_showing]

theorem lists_concludeOn (schedule : Nat → Bool) (launch : Launch σ θ) {start lists : VariableLists}
    {l : Ledger} (h : lists = start.setAll l.writes) :
    (launch.concludeOn schedule lists l).2.1 =
      start.setAll (launch.concludeOn schedule lists l).2.2.writes := by
  have body : (launch.body.runOn schedule lists l).2.2.1 =
      start.setAll (launch.body.runOn schedule lists l).2.2.2.writes := launch.body.lists_runOn h
  unfold concludeOn
  rcases hb : launch.body.runOn schedule lists l with ⟨ending, state, lists', l'⟩
  rw [hb] at body
  dsimp only
  cases launch.description? ending state with
  | none => exact body
  | some description => exact description.lists_runOn body

/-- A script that works on the lists themselves reports what it reports when it is shown what they
hold, and leaves them as its report tells. -/
theorem reportOn_eq (deadline : Nat) (schedule : Nat → Bool) (lists : VariableLists)
    (launch : Except String (Launch σ θ)) :
    reportOn deadline schedule lists launch =
      (report deadline schedule lists.view launch,
        lists.setAll (report deadline schedule lists.view launch).writes) := by
  cases launch with
  | error reason => rfl
  | ok launch =>
    have shown := launch.conclude_showing schedule lists .blind
    have kept := launch.lists_concludeOn schedule
      (show lists = lists.setAll Ledger.blind.writes from rfl)
    rcases h : launch.concludeOn schedule lists .blind with ⟨failure, lists', l⟩
    rw [h] at shown kept
    have hr : report deadline schedule lists.view (.ok launch) =
        reported deadline (launch.conclude schedule (Ledger.blind.showing lists)).1
          (launch.conclude schedule (Ledger.blind.showing lists)).2 := rfl
    rw [hr, shown, reportOn, h]
    exact congrArg (Prod.mk _) kept

end Launch

end CollectionRunner.Script
