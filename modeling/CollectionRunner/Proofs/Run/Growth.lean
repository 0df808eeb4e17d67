import CollectionRunner.Proofs.Run.Course
import CollectionRunner.Proofs.Script.Desk

namespace CollectionRunner

/-- A workspace after requests were run on it. -/
structure Workspace.Grown (w w' : Workspace) : Prop where
  info : w'.collection.info = w.collection.info
  items : w'.collection.items = w.collection.items
  events : w'.collection.events = w.collection.events
  vars : Variables.Grown w.collection.vars w'.collection.vars
  environment : Option.Rel (fun e e' => e'.id = e.id ∧ e'.name = e.name ∧
    Variables.Grown e.values e'.values) w.environment w'.environment

namespace Workspace.Grown

variable {w w' w'' : Workspace}

theorem refl (w : Workspace) : w.Grown w := by
  refine ⟨rfl, rfl, rfl, .refl _, ?_⟩
  cases w.environment with
  | none => exact .none
  | some e => exact .some ⟨rfl, rfl, .refl _⟩

theorem trans (h : w.Grown w') (h' : w'.Grown w'') : w.Grown w'' := by
  refine ⟨h'.info.trans h.info, h'.items.trans h.items, h'.events.trans h.events,
    h.vars.trans h'.vars, ?_⟩
  have he := h.environment
  have he' := h'.environment
  generalize w.environment = e, w'.environment = e', w''.environment = e'' at he he'
  cases he with
  | none => exact he'
  | some old =>
    cases he' with
    | some new => exact .some ⟨new.1.trans old.1, new.2.1.trans old.2.1, old.2.2.trans new.2.2⟩

end Workspace.Grown

/-- Scripts leave the lists grown, wherever one of them stops. -/
theorem Ran.grown {phase : Phase} {response : Option Response} {sources : List String}
    {l l' : VariableLists} {reports : List Script.Report} {actions : List Action}
    (h : Ran phase response sources l reports l' actions) (scope : VariableScope) :
    Variables.Grown (l.ofScope scope) (l'.ofScope scope) := by
  induction h with
  | nil => exact .refl _
  | cons _ ih => exact (VariableLists.grown_setAll _ _ scope).trans ih

theorem Workspace.grown_keep {w : Workspace} {l : VariableLists}
    (h : ∀ scope, Variables.Grown (w.lists.ofScope scope) (l.ofScope scope)) :
    w.Grown (w.keep l) := by
  refine ⟨rfl, rfl, rfl, h .collection, ?_⟩
  have he := h .environment
  unfold Workspace.keep
  cases hw : w.environment with
  | none => exact .none
  | some e =>
    refine .some ⟨rfl, rfl, ?_⟩
    simpa [Workspace.lists, VariableLists.ofScope, hw] using he

theorem Course.grown {config : Config} {elapsed : Nat} {breadcrumb : List String} {name : String}
    {item : Item} {w w' : Workspace} {run : Run} {actions : List Action}
    (h : Course config elapsed breadcrumb name item w run w' actions) : w.Grown w' := by
  cases h with
  | failed _ scripts answer error => exact Workspace.grown_keep scripts.grown
  | complete _ scripts answer error _ tests =>
    -- the scripts on the response start from what those before the request have left
    have tested := Workspace.grown_keep tests.grown
    rw [Workspace.keep_keep] at tested
    exact (Workspace.grown_keep scripts.grown).trans tested

variable {ω : Type}

theorem Runner.runOn_grown (r : Runner (StateM ω)) (breadcrumb : List String) (name : String)
    (w : Workspace) (world : ω) : w.Grown (r.runOn breadcrumb name w world).1.2 := by
  cases h : w.collection.findRequest? breadcrumb name with
  | none =>
    unfold runOn
    rw [h]
    exact .refl w
  | some item =>
    obtain ⟨p, world', log, hp, -, run, -, course⟩ := r.runOn_logs h world []
    rw [hp]
    exact course.grown

/-- A request to run, and what it is run with. -/
structure Call (ω : Type) where
  runner : Runner (StateM ω)
  breadcrumb : List String
  name : String

/-- Runs requests one after another, each on the workspace that the one before it has left. -/
def runAll : List (Call ω) → Workspace → StateM ω Workspace
  | [], w => pure w
  | call :: rest, w => do
    let (_, w) ← call.runner.runOn call.breadcrumb call.name w
    runAll rest w

/-- Whatever requests are run, with whatever scripts, also such that fail or are stopped midway, and
whatever comes back for the requests: of a collection and an environment only the lists of variables
change, and these grow. Scripts that set in the lists themselves leave them grown as well, wherever
they end. -/
theorem runAll_grown (calls : List (Call ω)) (w : Workspace) (world : ω) :
    w.Grown (runAll calls w world).1 ∧
    ∀ (σ θ : Type) (deadline : Nat) (schedule : Nat → Bool) (l : VariableLists)
      (launch : Except String (Script.Launch σ θ)) (scope : VariableScope),
      Variables.Grown (l.ofScope scope)
        ((Script.Launch.reportOn deadline schedule l launch).2.ofScope scope) := by
  constructor
  · induction calls generalizing w world with
    | nil => exact .refl w
    | cons call rest ih =>
      exact (call.runner.runOn_grown call.breadcrumb call.name w world).trans (ih _ _)
  · intro σ θ deadline schedule l launch scope
    rw [Script.Launch.reportOn_eq]
    exact l.grown_setAll _ scope

end CollectionRunner
