import CollectionRunner.Run

namespace CollectionRunner

/-- What a run asked of what is around it, and the answer. -/
inductive Action where
  | script (source : String) (phase : Phase) (response : Option Response) (view : View)
    (report : Script.Report)
  | exchange (out : Http.Outgoing) (reply : Http.Reply)

variable {ω α β : Type}

/-- The same runner, which also writes down what it asks and is answered. -/
def Runner.logged (r : Runner (StateM ω)) : Runner (StateM (ω × List Action)) where
  config := r.config
  engine source phase response view := fun (world, log) =>
    let (report, world) := r.engine source phase response view world
    (report, world, log ++ [.script source phase response view report])
  network out := fun (world, log) =>
    let (reply, world) := r.network out world
    (reply, world, log ++ [.exchange out reply])
  elapsed := r.elapsed

/-- The logged form goes as the plain one, and what it adds to the log is as stated. -/
def Logs (plain : StateM ω α) (logged : StateM (ω × List Action) α)
    (P : α → List Action → Prop) : Prop :=
  ∀ world log, ∃ a world' actions, plain world = (a, world') ∧
    logged (world, log) = (a, world', log ++ actions) ∧ P a actions

namespace Logs

variable {x : StateM ω α} {x' : StateM (ω × List Action) α} {P : α → List Action → Prop}
  {f : α → StateM ω β} {f' : α → StateM (ω × List Action) β} {Q : β → List Action → Prop}

theorem pure {a : α} (h : P a []) :
    Logs (Pure.pure a : StateM ω α) (Pure.pure a : StateM (ω × List Action) α) P :=
  fun world log =>
    ⟨a, world, [], rfl, congrArg (fun log => (a, world, log)) (List.append_nil log).symm, h⟩

/-- What comes second adds to the log after what comes first. -/
theorem bind (hx : Logs x x' P)
    (hf : ∀ a actions, P a actions → Logs (f a) (f' a) fun b later => Q b (actions ++ later)) :
    Logs (x >>= f) (x' >>= f') Q := by
  intro world log
  obtain ⟨a, world₁, actions, hx₁, hx₂, hp⟩ := hx world log
  obtain ⟨b, world₂, later, hf₁, hf₂, hq⟩ := hf a actions hp world₁ (log ++ actions)
  refine ⟨b, world₂, actions ++ later, ?_, ?_, hq⟩
  · change f (x world).1 (x world).2 = _
    rw [hx₁, hf₁]
  · change f' (x' (world, log)).1 (x' (world, log)).2 = _
    rw [hx₂, hf₂, List.append_assoc]

end Logs

namespace Runner

variable (r : Runner (StateM ω))

theorem engine_logs (source : String) (phase : Phase) (response : Option Response) (view : View) :
    Logs (r.engine source phase response view) (r.logged.engine source phase response view)
      fun report actions => actions = [.script source phase response view report] :=
  fun world _ => ⟨(r.engine source phase response view world).1, _, _, rfl, rfl, rfl⟩

theorem network_logs (out : Http.Outgoing) :
    Logs (r.network out) (r.logged.network out)
      fun reply actions => actions = [.exchange out reply] :=
  fun world _ => ⟨(r.network out world).1, _, _, rfl, rfl, rfl⟩

end Runner

end CollectionRunner
