import CollectionRunner.Proofs.Run.Course
import CollectionRunner.Proofs.Scope.Reading
import CollectionRunner.Proofs.Template.Scanner

namespace CollectionRunner

open Template (pieces Piece)

theorem Ran.lists_eq {phase : Phase} {response : Option Response} {sources : List String}
    {l l' : VariableLists} {reports : List Script.Report} {actions : List Action}
    (h : Ran phase response sources l reports l' actions) :
    l' = l.setAll (reports.flatMap (·.writes)) := by
  induction h with
  | nil => rfl
  | @cons source rest l report reports l' actions _ ih =>
    rw [ih, List.flatMap_cons]
    exact List.foldl_append.symm

/-- What the scripts before the request have written, in order. -/
def Run.writes (run : Run) : List Write := run.before.flatMap (·.writes)

/-- A workspace after variables were written one after another. -/
def Workspace.written (w : Workspace) (ws : List Write) : Workspace := w.keep (w.lists.setAll ws)

namespace Workspace

variable {w : Workspace} {ws : List Write} {key value : String} (config : Config)
  (breadcrumb : List String)

theorem first?_written (h : lastWrite? .collection key ws = some value) :
    Variables.first? (w.written ws).collection.vars key = some value := by
  have read := w.lists.first?_setAll ws .collection key
  rwa [h, Option.some_or] at read

theorem get?_written {e : Environment} (he : (w.written ws).environment = some e)
    (h : lastWrite? .environment key ws = some value) :
    Variables.get? e.values key = some value := by
  obtain ⟨_, -, rfl⟩ := Option.map_eq_some_iff.1 he
  have read := w.lists.get?_setAll ws .environment key
  rwa [h, Option.some_or] at read

/-- A write to the environment is in effect if there is an environment, and else only if the same
value is in effect without it. -/
theorem get?_snapshot_environment (h : lastWrite? .environment key ws = some value) :
    (config.snapshot (w.written ws).collection breadcrumb (w.written ws).environment).get? key =
        some value ↔
      w.environment.isSome = true ∨
        (config.snapshot (w.written ws).collection breadcrumb none).get? key = some value := by
  have there : (w.written ws).environment.isSome = w.environment.isSome := Option.isSome_map
  rw [config.get?_snapshot, ← there]
  cases he : (w.written ws).environment with
  | none => simp
  | some e => simp [get?_written he h]

/-- A write to the collection is in effect where the environment does not have its key. -/
theorem get?_snapshot_collection (h : lastWrite? .collection key ws = some value)
    (off : ∀ e ∈ (w.written ws).environment, ∀ v ∈ e.values, v.enabled = true → v.key ≠ key) :
    (config.snapshot (w.written ws).collection breadcrumb (w.written ws).environment).get? key =
      some value := by
  have passed : ((w.written ws).environment.bind fun e => Variables.get? e.values key) = none :=
    Option.bind_eq_none_iff.2 fun e he => Variables.get?_eq_none_iff.2 (off e he)
  rw [config.get?_snapshot, passed, Option.none_or]
  exact Config.get?_snapshot_of_first? (first?_written h) config breadcrumb

end Workspace

/-- Wherever a placeholder of the key stands in a text, the value is put in. -/
def Snapshot.PutsIn (s : Snapshot) (key value : String) : Prop :=
  ∀ (text : String) (before after : List Piece) (inner : List Char),
    pieces text.toList = before ++ .placeholder inner :: after →
    Text.trim (String.ofList inner) = key →
    s.resolve text = String.ofList
      (before.flatMap (Piece.filled s.get?) ++ value.toList ++
        after.flatMap (Piece.filled s.get?))

theorem Snapshot.putsIn_of_get? {s : Snapshot} {key value : String}
    (h : s.get? key = some value) : s.PutsIn key value := by
  intro text before after inner hp hk
  have here : Piece.filled s.get? (.placeholder inner) = value.toList := by
    change (s.get? (Text.trim (String.ofList inner))).elim _ String.toList = value.toList
    rw [hk, h]
    rfl
  unfold Snapshot.resolve
  rw [Template.resolve_eq, Template.scan_eq_pieces, hp, List.flatMap_append, List.flatMap_cons,
    here, List.append_assoc]

theorem Exchanged.request_eq {elapsed : Nat} {request : SentRequest} {response : Response}
    {actions : List Action} (h : Exchanged elapsed request response actions) :
    response.request = request := by
  cases h with
  | refused => rfl
  | @sent out reply _ => cases reply <;> rfl

/-- The request of a run is resolved with what the scripts before it have written. -/
theorem Course.request_eq {config : Config} {elapsed : Nat} {breadcrumb : List String}
    {name : String} {item : Item} {w w' : Workspace} {run : Run} {actions : List Action}
    (h : Course config elapsed breadcrumb name item w run w' actions) :
    run.response.request = resolvedRequest config breadcrumb item (w.written run.writes) := by
  cases h with
  | failed _ scripts answer error =>
    rw [answer.request_eq, scripts.lists_eq]
    rfl
  | complete _ scripts answer error _ tests =>
    rw [answer.request_eq, scripts.lists_eq]
    rfl

variable {ω : Type}

/-- What the scripts before a request have written, the request is resolved with: the last write to
a key of the environment exactly when there is an environment, or when the key has the same value
without it; and the last write to a key of the collection in any case in which the environment has
no entry of the key enabled. What is in effect is put in wherever a placeholder of its key stands. -/
theorem Runner.runOn_lastWrite (r : Runner (StateM ω)) (breadcrumb : List String) (name : String)
    (w : Workspace) (world : ω) {item : Item}
    (found : w.collection.findRequest? breadcrumb name = some item) :
    ∃ run w' world' log, r.runOn breadcrumb name w world = ((.ok run, w'), world') ∧
      Course r.config r.elapsed breadcrumb name item w run w' log ∧
      let kept := w.written run.writes
      let s := r.config.snapshot kept.collection breadcrumb kept.environment
      run.response.request = prepare (item.request.getD {}) s ∧
      (∀ key value, lastWrite? .environment key run.writes = some value →
        (s.get? key = some value ↔ w.environment.isSome = true ∨
          (r.config.snapshot kept.collection breadcrumb none).get? key = some value)) ∧
      (∀ key value, lastWrite? .collection key run.writes = some value →
        (∀ e ∈ kept.environment, ∀ v ∈ e.values, v.enabled = true → v.key ≠ key) →
        s.get? key = some value) ∧
      ∀ key value, s.get? key = some value → s.PutsIn key value := by
  obtain ⟨⟨result, w'⟩, world', log, h, -, run, rfl, course⟩ := r.runOn_logs found world []
  exact ⟨run, w', world', log, h, course, course.request_eq,
    fun _ _ hw => Workspace.get?_snapshot_environment r.config breadcrumb hw,
    fun _ _ hw off => Workspace.get?_snapshot_collection r.config breadcrumb hw off,
    fun _ _ hg => Snapshot.putsIn_of_get? hg⟩

/-- A request that asks for a token, and a script that sets it in the environment. -/
def tokenRequest : Item where
  name := "Ping"
  request := some { address := { raw := "demo.test/\x7b\x7btoken\x7d\x7d" } }
  events := [.ofSource .prerequest "pm.environment.set('token', 'abc');"]

/-- A runner with the scripts' engine and no network. -/
def tokenRunner : Runner where
  engine := Script.engine ⟨5000000, 0⟩
  network := Http.unreachable

/-- What a run writes whose only script before the request is the given one. -/
theorem Runner.writes_runItem (r : Runner) {breadcrumb : List String} {item : Item} {w : Workspace}
    {source : String} (name : String)
    (only : Phase.prerequest.sources (w.collection.eventsAround breadcrumb item) = [source]) :
    (r.runItem breadcrumb name item w).1.writes =
      (r.engine source .prerequest none w.lists.view).writes := by
  unfold Run.writes
  rw [Runner.runItem_before]
  unfold Runner.runPhase
  rw [only]
  exact List.append_nil _

/-- The script sets the token when there are no variables. -/
theorem tokenRunner_writes {e : Option Environment}
    (empty : Workspace.lists ⟨{ items := [tokenRequest] }, e⟩ = ⟨[], []⟩) :
    (tokenRunner.runItem [] "Ping" tokenRequest ⟨{ items := [tokenRequest] }, e⟩).1.writes =
      [⟨.environment, "token", "abc"⟩] := by
  have sources : Phase.prerequest.sources
      (Collection.eventsAround { items := [tokenRequest] } [] tokenRequest) =
        ["pm.environment.set('token', 'abc');"] := by decide +kernel
  have ran : (tokenRunner.engine "pm.environment.set('token', 'abc');" .prerequest none
      (VariableLists.view ⟨[], []⟩)).writes = [⟨.environment, "token", "abc"⟩] := by
    decide +kernel
  rw [tokenRunner.writes_runItem "Ping" sources, empty]
  exact ran

/-- With an environment, even an empty one, the token is in effect. -/
theorem Runner.runOn_lastWrite_token :
    let w : Workspace := ⟨{ items := [tokenRequest] }, some {}⟩
    w.collection.findRequest? [] "Ping" = some tokenRequest ∧
    ∃ run w', tokenRunner.lift.runOn [] "Ping" w () = ((.ok run, w'), ()) ∧
      lastWrite? .environment "token" run.writes = some "abc" ∧
      (tokenRunner.config.snapshot (w.written run.writes).collection []
        (w.written run.writes).environment).get? "token" = some "abc" := by
  intro w
  have found : w.collection.findRequest? [] "Ping" = some tokenRequest := rfl
  obtain ⟨run, w', _, _, h, _, _, read, _⟩ :=
    (tokenRunner.lift : Runner (StateM Unit)).runOn_lastWrite [] "Ping" w () found
  have ran : run = (tokenRunner.runItem [] "Ping" tokenRequest w).1 := by
    have same := h
    rw [tokenRunner.runOn_lift found] at same
    exact (Except.ok.inj (Prod.mk.inj (Prod.mk.inj same).1).1).symm
  have last : lastWrite? .environment "token" run.writes = some "abc" := by
    rw [ran, tokenRunner_writes rfl]
    rfl
  exact ⟨found, run, w', h, last, (read _ _ last).2 (.inl rfl)⟩

/-- Without an environment the token is lost, and the request keeps its placeholder. -/
theorem Runner.run_token_lost :
    let w : Workspace := ⟨{ items := [tokenRequest] }, none⟩
    ∃ run w', tokenRunner.run [] "Ping" w = .ok (run, w') ∧
      lastWrite? .environment "token" run.writes = some "abc" ∧
      (tokenRunner.config.snapshot (w.written run.writes).collection []
        (w.written run.writes).environment).get? "token" = none ∧
      run.response.request.url = "demo.test/\x7b\x7btoken\x7d\x7d" := by
  intro w
  have found : w.collection.findRequest? [] "Ping" = some tokenRequest := rfl
  obtain ⟨run, w', _, h, course⟩ := tokenRunner.run_takes_course found
  have ran : tokenRunner.runItem [] "Ping" tokenRequest w = (run, w') := by
    rw [tokenRunner.run_eq_runItem found] at h
    exact Except.ok.inj h
  have writes : run.writes = [⟨.environment, "token", "abc"⟩] := by
    have written := tokenRunner_writes (e := none) rfl
    rwa [ran] at written
  refine ⟨run, w', h, ?_, ?_, ?_⟩
  · rw [writes]
    rfl
  · rw [writes]
    decide +kernel
  · rw [course.request_eq, writes]
    decide +kernel

end CollectionRunner
