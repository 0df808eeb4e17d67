import CollectionRunner.Proofs.Program.Obstacles
import CollectionRunner.Proofs.Run.Course

namespace CollectionRunner

theorem Runner.run_logs {ω : Type} (r : Runner (StateM ω)) {breadcrumb : List String}
    {name : String} {item : Item} {w : Workspace}
    (h : w.collection.findRequest? breadcrumb name = some item) :
    Logs (r.run breadcrumb name w) (r.logged.run breadcrumb name w)
      fun result actions => ∃ run w', result = .ok (run, w') ∧
        Course r.config r.elapsed breadcrumb name item w run w' actions :=
  (r.runOn_logs h).bind fun p actions ⟨run, result, course⟩ =>
    .pure ⟨run, p.2, by simp [result, Except.map], by simpa using course⟩

theorem Runner.run_missing {m : Type → Type} [Monad m] [LawfulMonad m] (r : Runner m)
    {breadcrumb : List String} {name : String} {w : Workspace}
    (h : w.collection.findRequest? breadcrumb name = none) :
    r.run breadcrumb name w = pure (.error (.notFound breadcrumb name)) := by
  unfold run runOn
  rw [h]
  dsimp only
  rw [pure_bind]
  rfl

theorem Runner.run_lift {ω : Type} (r : Runner) (breadcrumb : List String) (name : String)
    (w : Workspace) :
    (r.lift : Runner (StateM ω)).run breadcrumb name w = pure (r.run breadcrumb name w) := by
  cases h : w.collection.findRequest? breadcrumb name with
  | none =>
    rw [run_missing _ h, run_missing r h]
    rfl
  | some item =>
    rw [r.run_eq_runItem h]
    unfold run runOn
    rw [h]
    dsimp only
    rw [runItem_lift]
    generalize r.runItem breadcrumb name item w = p
    rfl

namespace Surroundings

variable {m : Type → Type} [Monad m]

/-- What a run is made with, under some settings. -/
def runner (s : Surroundings) (engine : Script.Limits → Script.Engine m) (network : Http.Network m)
    (config : Config) : Runner m :=
  ⟨config, engine (.ofConfig config), network, s.elapsed⟩

/-- What the program leaves after a run that was carried out, or was not. -/
def transcript (s : Surroundings) (i : CommandLine.Invocation) (preview : Nat) :
    Except RunError (Run × Workspace) → Transcript
  | .error e => .ofFailure ⟨[e.message]⟩
  | .ok (run, _) =>
    { exit := if run.passed then 0 else 1
      output := Console.report s.colours preview run
      errors := s.logText i (Log.ofRun run) }

/-- Does what an invocation asks for, with runs that may have effects. -/
def performWith (s : Surroundings) (runner : Config → Runner m) (i : CommandLine.Invocation) :
    m Transcript :=
  match i.task with
  | .list _ => return s.perform i
  | .run collection request environment config preview =>
    match s.assignment collection request environment config with
    | .error f => return .ofFailure f
    | .ok a => do
      let result ← (runner a.config).run a.breadcrumb a.name a.workspace
      return s.transcript i preview result

/-- The program, with runs that may have effects. -/
def programWith (s : Surroundings) (runner : Config → Runner m) (arguments : List String) :
    m Transcript :=
  match CommandLine.Invocation.ofArguments arguments with
  | .error stop => return .ofStop stop
  | .ok i => s.performWith runner i

/-- How the program ends when it is asked for a run: what it leaves, and what it did meanwhile. -/
structure Ends (s : Surroundings) (collection request : String) (environment config : Option String)
    (preview : Nat) (left : Transcript) (log : List Action) : Prop where
  stopped : s.Obstacle collection request environment config →
    left.exit ≠ 0 ∧ left.output = "" ∧ log = []
  complete : ¬ s.Obstacle collection request environment config → left.output ≠ ""
  reported : left.output ≠ "" → ∃ a item run w',
    s.Ready collection request environment config a ∧
    a.workspace.collection.findRequest? a.breadcrumb a.name = some item ∧
    Course a.config s.elapsed a.breadcrumb a.name item a.workspace run w' log ∧
    left.output = Console.report s.colours preview run

end Surroundings

theorem Console.report_ne_empty (colours : Bool) (limit : Nat) (run : Run) :
    report colours limit run ≠ "" := by
  intro empty
  have length := congrArg String.length empty
  simp [report, Line.ofRun, Line.render, renderLine, String.join_cons] at length

namespace Surroundings

variable (s : Surroundings)

theorem perform_eq_transcript {i : CommandLine.Invocation} {collection request : String}
    {environment config : Option String} {preview : Nat} {a : Assignment}
    (asked : i.task = .run collection request environment config preview)
    (loaded : s.assignment collection request environment config = .ok a) :
    s.perform i = s.transcript i preview
      ((s.runner s.engine s.network a.config).run a.breadcrumb a.name a.workspace) := by
  have carried : s.runRequest collection request environment config = s.carryOut a := by
    unfold runRequest
    rw [loaded]
    rfl
  unfold perform
  rw [asked]
  dsimp only
  rw [carried]
  unfold carryOut runner
  dsimp only
  generalize Runner.run (m := Id) _ _ _ _ = result
  cases result <;> rfl

/-- With runs that have no effects it is the program itself. -/
theorem programWith_lift {ω : Type} (arguments : List String) :
    s.programWith (fun c => ((s.runner s.engine s.network c).lift : Runner (StateM ω))) arguments =
      pure (s.program arguments) := by
  unfold programWith program
  cases CommandLine.Invocation.ofArguments arguments with
  | error stop => rfl
  | ok i =>
    dsimp only
    unfold performWith
    cases asked : i.task with
    | list collection => rfl
    | run collection request environment config preview =>
      dsimp only
      cases loaded : s.assignment collection request environment config with
      | error f =>
        have failed : s.runRequest collection request environment config = .error f := by
          unfold runRequest
          rw [loaded]
          rfl
        unfold perform
        rw [asked]
        dsimp only
        rw [failed]
      | ok a =>
        dsimp only
        rw [Runner.run_lift, pure_bind, s.perform_eq_transcript asked loaded]

theorem ends_of_obstacle {collection request : String} {environment config : Option String}
    (obstacle : s.Obstacle collection request environment config) (preview : Nat) (f : Failure) :
    s.Ends collection request environment config preview (.ofFailure f) [] where
  stopped _ := ⟨Nat.one_ne_zero, rfl, rfl⟩
  complete clear := absurd obstacle clear
  reported printed := absurd rfl printed

section

variable {ω : Type} (engine : Script.Limits → Script.Engine (StateM ω))
  (network : Http.Network (StateM ω)) {i : CommandLine.Invocation} {collection request : String}
  {environment config : Option String} {preview : Nat} {a : Assignment} {item : Item}

/-- A request that is found is run, and what it leaves is reported. -/
theorem carried_logs (ready : s.Ready collection request environment config a)
    (found : a.workspace.collection.findRequest? a.breadcrumb a.name = some item) :
    Logs
      (do
        let result ← (s.runner engine network a.config).run a.breadcrumb a.name a.workspace
        return s.transcript i preview result)
      (do
        let result ← (s.runner engine network a.config).logged.run a.breadcrumb a.name a.workspace
        return s.transcript i preview result)
      (s.Ends collection request environment config preview) := by
  have clear : ¬ s.Obstacle collection request environment config := by
    rw [ready.obstacle_iff, found]
    exact Option.some_ne_none item
  refine ((s.runner engine network a.config).run_logs found).bind ?_
  rintro _ actions ⟨run, w', rfl, course⟩
  refine .pure ?_
  rw [List.append_nil]
  exact
    { stopped := fun obstacle => absurd obstacle clear
      complete := fun _ => Console.report_ne_empty s.colours preview run
      reported := fun _ => ⟨a, item, run, w', ready, found, course, rfl⟩ }

theorem performWith_ends
    (asked : i.task = .run collection request environment config preview) (world : ω) :
    ∃ left world' log,
      s.performWith (s.runner engine network) i world = (left, world') ∧
      s.performWith (fun c => (s.runner engine network c).logged) i (world, []) =
        (left, world', log) ∧
      s.Ends collection request environment config preview left log ∧
      (s.Obstacle collection request environment config → world' = world) := by
  unfold performWith
  rw [asked]
  dsimp only
  cases loaded : s.assignment collection request environment config with
  | error f =>
    have obstacle : s.Obstacle collection request environment config :=
      obstacle_iff.mpr fun a ready => by simp [assignment_eq_ok_iff.mpr ready] at loaded
    exact ⟨.ofFailure f, world, [], rfl, rfl, s.ends_of_obstacle obstacle preview f, fun _ => rfl⟩
  | ok a =>
    have ready := assignment_eq_ok_iff.mp loaded
    dsimp only
    cases found : a.workspace.collection.findRequest? a.breadcrumb a.name with
    | none =>
      have obstacle := ready.obstacle_iff.mpr found
      rw [Runner.run_missing _ found, Runner.run_missing _ found, pure_bind, pure_bind]
      exact ⟨_, world, [], rfl, rfl, s.ends_of_obstacle obstacle preview _, fun _ => rfl⟩
    | some item =>
      obtain ⟨left, world', log, plain, logged, ends⟩ :=
        s.carried_logs engine network ready found world []
      refine ⟨left, world', log, plain, logged, ends, fun obstacle => ?_⟩
      rw [ready.obstacle_iff, found] at obstacle
      cases obstacle

end

/-- When a command line asks for a run, whatever the files around the program hold and whatever
effects scripts and exchanges have: any obstacle ends the program without success, and then nothing
was printed on the output, run or sent; without an obstacle a report is printed, and what was run is
the request that the parts of the path lead to in the collection that was loaded. -/
theorem program_ends (arguments : List String) {collection request : String}
    {environment config : Option String} {preview : Nat} {jsonLogs : Bool} {verbosity : Nat}
    (asked : CommandLine.Invocation.ofArguments arguments =
      .ok ⟨.run collection request environment config preview, jsonLogs, verbosity⟩) :
    (∃ log, s.Ends collection request environment config preview (s.program arguments) log) ∧
    ∀ {ω : Type} (engine : Script.Limits → Script.Engine (StateM ω))
      (network : Http.Network (StateM ω)) (world : ω), ∃ left world' log,
      s.programWith (s.runner engine network) arguments world = (left, world') ∧
      s.programWith (fun c => (s.runner engine network c).logged) arguments (world, []) =
        (left, world', log) ∧
      s.Ends collection request environment config preview left log ∧
      (s.Obstacle collection request environment config → world' = world) := by
  have performed {m : Type → Type} [Monad m] (runner : Config → Runner m) :
      s.programWith runner arguments =
        s.performWith runner ⟨.run collection request environment config preview, jsonLogs,
          verbosity⟩ := by
    unfold programWith
    rw [asked]
  constructor
  · -- the program's own scripts and network, as effects on nothing
    obtain ⟨left, _, log, ran, -, ends, -⟩ := s.performWith_ends
      (fun limits source phase response view => (pure (s.engine limits source phase response view) :
        StateM Unit _)) (fun out => pure (s.network out))
      (i := ⟨.run collection request environment config preview, jsonLogs, verbosity⟩) rfl ()
    have lifted := congrFun (s.programWith_lift (ω := Unit) arguments) ()
    rw [performed] at lifted
    obtain rfl : left = s.program arguments := congrArg Prod.fst (ran.symm.trans lifted)
    exact ⟨log, ends⟩
  · intro ω engine network world
    rw [performed, performed]
    exact s.performWith_ends engine network rfl world

/-- When a collection has the request Ping only, a run of Ping is reported, and a run of Pong ends
without success and without a report. -/
theorem program_ends_ping :
    let text := "\x7b\"item\": [\x7b\"name\": \"Ping\", \"request\": \x7b\x7d\x7d]\x7d"
    let s : Surroundings :=
      { disk := ⟨"/work", [(["work", "api.json"], .file text.toUTF8)]⟩, network := Http.unreachable }
    (s.program ["run", "api.json", "Ping"]).output ≠ "" ∧
      (s.program ["run", "api.json", "Pong"]).output = "" ∧
      (s.program ["run", "api.json", "Pong"]).exit ≠ 0 := by
  intro text s
  have read : s.disk.readText (s.locate "api.json") = .ok text := by decide +kernel
  have found : ∃ c, Json.readText Collection.decode text = .ok c ∧
      (c.findRequest? [] "Ping").isSome = true ∧ c.findRequest? [] "Pong" = none := by
    have evaluated : ((Json.readText Collection.decode text).map fun c =>
        ((c.findRequest? [] "Ping").isSome, (c.findRequest? [] "Pong").isSome)).toOption =
          some (true, false) := by decide +kernel
    cases h : Json.readText Collection.decode text with
    | error f => simp [h, Except.map, Except.toOption] at evaluated
    | ok c => simpa [h, Except.map, Except.toOption] using evaluated
  obtain ⟨c, parsed, ping, pong⟩ := found
  have ready (name : String) (split : RequestPath.split? name = some ([], name)) :
      s.Ready "api.json" name none none ⟨{}, ⟨c, none⟩, [], name⟩ :=
    ⟨⟨fun present => absurd present (by decide +kernel), fun _ => rfl⟩, ⟨text, read, parsed⟩, rfl,
      split⟩
  obtain ⟨⟨_, pingEnds⟩, -⟩ := s.program_ends ["run", "api.json", "Ping"] rfl
  obtain ⟨⟨_, pongEnds⟩, -⟩ := s.program_ends ["run", "api.json", "Pong"] rfl
  have missing := (ready "Pong" (by decide +kernel)).obstacle_iff.mpr pong
  have present : ¬ s.Obstacle "api.json" "Ping" none none := fun obstacle => by
    simp [(ready "Ping" (by decide +kernel)).obstacle_iff.mp obstacle] at ping
  exact ⟨pingEnds.complete present, (pongEnds.stopped missing).2.1, (pongEnds.stopped missing).1⟩

end Surroundings

end CollectionRunner
