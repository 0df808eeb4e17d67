import CollectionRunner.Proofs.Run.Logged
import CollectionRunner.Proofs.Run.Merging
import CollectionRunner.Proofs.Run.Selected

namespace CollectionRunner

/-- Scripts that ran one after another, each once, on the lists that the one before it has left,
whatever the one before it reported. -/
inductive Ran (phase : Phase) (response : Option Response) :
    List String → VariableLists → List Script.Report → VariableLists → List Action → Prop
  | nil {l} : Ran phase response [] l [] l []
  | cons {source rest l report reports l' actions}
      (h : Ran phase response rest (l.setAll report.writes) reports l' actions) :
      Ran phase response (source :: rest) l (report :: reports) l'
        (.script source phase response l.view report :: actions)

/-- A request that was sent once and answered, or that failed a check and was not sent. -/
inductive Exchanged (elapsed : Nat) (request : SentRequest) : Response → List Action → Prop
  | refused {e} (h : Http.outgoing request = .error e) :
    Exchanged elapsed request (.failed request e elapsed) []
  | sent {out reply} (h : Http.outgoing request = .ok out) :
    Exchanged elapsed request (reply.response request out.url elapsed) [.exchange out reply]

/-- An item's request, resolved with the variables in effect in a workspace. -/
def resolvedRequest (config : Config) (breadcrumb : List String) (item : Item) (w : Workspace) :
    SentRequest :=
  prepare (item.request.getD {}) (config.snapshot w.collection breadcrumb w.environment)

/-- How many variables are in effect in a workspace besides those of the settings. -/
def knownVariables (breadcrumb : List String) (w : Workspace) : Nat :=
  (Snapshot.build (some w.collection) breadcrumb w.environment).size

/-- How the run of an item goes, with all that it asks of what is around it. -/
inductive Course (config : Config) (elapsed : Nat) (breadcrumb : List String) (name : String)
    (item : Item) (w : Workspace) : Run → Workspace → List Action → Prop
  /-- The response carries an error, and the scripts on it do not run. -/
  | failed {sources before l asked response exchange}
      (around : ScriptsAround "prerequest" w.collection breadcrumb item sources)
      (scripts : Ran .prerequest none sources w.lists before l asked)
      (answer : Exchanged elapsed (resolvedRequest config breadcrumb item (w.keep l)) response
        exchange)
      (error : response.error.isSome = true) :
      Course config elapsed breadcrumb name item w
        ⟨breadcrumb, name, before, knownVariables breadcrumb (w.keep l), response, none⟩
        (w.keep l) (asked ++ exchange)
  | complete {sources before l asked response exchange sources' after l' tested}
      (around : ScriptsAround "prerequest" w.collection breadcrumb item sources)
      (scripts : Ran .prerequest none sources w.lists before l asked)
      (answer : Exchanged elapsed (resolvedRequest config breadcrumb item (w.keep l)) response
        exchange)
      (error : response.error = none)
      (around' : ScriptsAround "test" w.collection breadcrumb item sources')
      (tests : Ran .test (some response) sources' (w.keep l).lists after l' tested) :
      Course config elapsed breadcrumb name item w
        ⟨breadcrumb, name, before, knownVariables breadcrumb (w.keep l), response, some after⟩
        (w.keep l') (asked ++ exchange ++ tested)

namespace Workspace

@[simp] theorem keep_keep (w : Workspace) (l l' : VariableLists) :
    (w.keep l).keep l' = w.keep l' := by
  cases h : w.environment <;> simp [keep, h]

end Workspace

namespace Runner

variable {ω : Type} (r : Runner (StateM ω))

theorem runScripts_logs (phase : Phase) (response : Option Response) (l : VariableLists)
    (sources : List String) :
    Logs (r.runScripts phase response l sources) (r.logged.runScripts phase response l sources)
      fun p actions => Ran phase response sources l p.1 p.2 actions := by
  induction sources generalizing l with
  | nil => exact .pure .nil
  | cons source rest ih =>
    refine (r.engine_logs source phase response l.view).bind fun report actions h => ?_
    subst h
    exact (ih (l.setAll report.writes)).bind fun p actions h => .pure (by simpa using h.cons)

theorem runPhase_logs (phase : Phase) (response : Option Response) (events : List Event)
    (w : Workspace) :
    Logs (r.runPhase phase response events w) (r.logged.runPhase phase response events w)
      fun p actions => ∃ l, p.2 = w.keep l ∧
        Ran phase response (phase.sources events) w.lists p.1 l actions :=
  (r.runScripts_logs phase response w.lists (phase.sources events)).bind fun p actions h =>
    .pure ⟨p.2, rfl, by simpa using h⟩

theorem execute_logs (request : Request) (s : Snapshot) :
    Logs (Http.execute r.network r.elapsed request s)
      (Http.execute r.logged.network r.logged.elapsed request s)
      (Exchanged r.elapsed (prepare request s)) := by
  unfold Http.execute Http.perform
  cases h : Http.outgoing (prepare request s) with
  | error e => exact .pure (.refused h)
  | ok out =>
    refine (r.network_logs out).bind fun reply actions hr => .pure ?_
    subst hr
    exact .sent h

theorem runItem_logs {breadcrumb : List String} {name : String} {item : Item} {w : Workspace}
    (h : w.collection.findRequest? breadcrumb name = some item) :
    Logs (r.runItem breadcrumb name item w) (r.logged.runItem breadcrumb name item w)
      fun p actions => Course r.config r.elapsed breadcrumb name item w p.1 p.2 actions := by
  have around := scriptsAround_sources .prerequest h
  have around' := scriptsAround_sources .test h
  unfold runItem
  refine (r.runPhase_logs _ _ _ _).bind ?_
  rintro ⟨before, kept⟩ asked ⟨l, rfl, scripts⟩
  refine (r.execute_logs _ _).bind fun response exchange answer => ?_
  cases error : response.error with
  | some reason =>
    have failed : response.error.isSome = true := by rw [error, Option.isSome_some]
    exact .pure (by simpa [knownVariables] using Course.failed around scripts answer failed)
  | none =>
    refine (r.runPhase_logs _ _ _ _).bind ?_
    rintro ⟨after, kept⟩ tested ⟨l', rfl, tests⟩
    exact .pure (by
      simpa [knownVariables] using Course.complete around scripts answer error around' tests)

theorem runOn_logs {breadcrumb : List String} {name : String} {item : Item} {w : Workspace}
    (h : w.collection.findRequest? breadcrumb name = some item) :
    Logs (r.runOn breadcrumb name w) (r.logged.runOn breadcrumb name w)
      fun p actions => ∃ run, p.1 = .ok run ∧
        Course r.config r.elapsed breadcrumb name item w run p.2 actions := by
  unfold runOn
  rw [h]
  exact (r.runItem_logs h).bind fun p actions course =>
    .pure ⟨p.1, rfl, by simpa using course⟩

end Runner

section Effectless

variable {ω : Type} (r : Runner)

/-- A runner without effects, beside a state that it does not touch. -/
def Runner.lift : Runner (StateM ω) where
  config := r.config
  engine source phase response view := pure (r.engine source phase response view)
  network out := pure (r.network out)
  elapsed := r.elapsed

theorem Runner.runScripts_lift (phase : Phase) (response : Option Response) (l : VariableLists)
    (sources : List String) :
    (r.lift : Runner (StateM ω)).runScripts phase response l sources =
      pure (r.runScripts phase response l sources) := by
  induction sources generalizing l with
  | nil => rfl
  | cons source rest ih =>
    unfold runScripts
    rw [show (r.lift : Runner (StateM ω)).engine source phase response l.view =
      pure (r.engine source phase response l.view) from rfl, pure_bind, ih]
    rfl

theorem Runner.runPhase_lift (phase : Phase) (response : Option Response) (events : List Event)
    (w : Workspace) :
    (r.lift : Runner (StateM ω)).runPhase phase response events w =
      pure (r.runPhase phase response events w) := by
  unfold runPhase
  rw [runScripts_lift, pure_bind]
  rfl

theorem Runner.execute_lift (request : Request) (s : Snapshot) :
    Http.execute (r.lift : Runner (StateM ω)).network (r.lift : Runner (StateM ω)).elapsed
      request s = pure (Http.execute r.network r.elapsed request s) := by
  unfold Http.execute Http.perform
  cases Http.outgoing (prepare request s) <;> rfl

theorem Runner.runItem_lift (breadcrumb : List String) (name : String) (item : Item)
    (w : Workspace) :
    (r.lift : Runner (StateM ω)).runItem breadcrumb name item w =
      pure (r.runItem breadcrumb name item w) := by
  unfold runItem
  simp only [runPhase_lift, pure_bind]
  -- the pair must be a variable before the two sides can be compared by evaluation
  generalize r.runPhase .prerequest none (w.collection.eventsAround breadcrumb item) w = p
  obtain ⟨before, kept⟩ := p
  have answer := execute_lift (ω := ω) r (item.request.getD {})
    (r.config.snapshot kept.collection breadcrumb kept.environment)
  refine (congrArg (· >>= _) answer).trans ?_
  rw [pure_bind]
  change _ = pure (ite _ _ _)
  split <;> rfl

/-- The scripts before the request of a run without effects. -/
theorem Runner.runItem_before (breadcrumb : List String) (name : String) (item : Item)
    (w : Workspace) :
    (r.runItem breadcrumb name item w).1.before =
      (r.runPhase .prerequest none (w.collection.eventsAround breadcrumb item) w).1 := by
  unfold runItem
  change (ite _ _ _ : Run × Workspace).1.before = _
  split <;> rfl

variable {breadcrumb : List String} {name : String} {item : Item} {w : Workspace}

theorem Runner.run_eq_runItem (h : w.collection.findRequest? breadcrumb name = some item) :
    r.run breadcrumb name w = .ok (r.runItem breadcrumb name item w) := by
  unfold Runner.run runOn
  rw [h]
  dsimp only
  generalize r.runItem breadcrumb name item w = p
  rfl

theorem Runner.runOn_lift (h : w.collection.findRequest? breadcrumb name = some item) (world : ω) :
    (r.lift : Runner (StateM ω)).runOn breadcrumb name w world =
      ((.ok (r.runItem breadcrumb name item w).1, (r.runItem breadcrumb name item w).2),
        world) := by
  unfold runOn
  rw [h]
  dsimp only
  rw [runItem_lift]
  generalize r.runItem breadcrumb name item w = p
  rfl

/-- The program's own scripts and network keep no state, and its runs take the same course. -/
theorem Runner.run_takes_course (h : w.collection.findRequest? breadcrumb name = some item) :
    ∃ run w' log, r.run breadcrumb name w = .ok (run, w') ∧
      Course r.config r.elapsed breadcrumb name item w run w' log := by
  obtain ⟨p, _, log, hp, -, course⟩ :=
    (r.lift : Runner (StateM Unit)).runItem_logs h () []
  rw [runItem_lift] at hp
  have hr := (Prod.mk.inj (show (r.runItem breadcrumb name item w, ()) = _ from hp)).1
  refine ⟨p.1, p.2, log, ?_, course⟩
  rw [r.run_eq_runItem h, hr]

end Effectless

end CollectionRunner
