import CollectionRunner.Proofs.Run.Logged
import CollectionRunner.Proofs.Scope.Reading
import CollectionRunner.Proofs.Script.Desk

namespace CollectionRunner

/-- Of each key the same is read: the value of its first enabled entry. -/
def Environment.ReadsAs (e e' : Environment) : Prop :=
  ∀ key, Variables.get? e.values key = Variables.get? e'.values key

def Environment.withoutDisabled (e : Environment) : Environment :=
  { e with values := e.values.filter (·.enabled) }

theorem Environment.readsAs_withoutDisabled (e : Environment) : e.ReadsAs e.withoutDisabled :=
  fun key => (Variables.get?_filter_enabled e.values key).symm

/-- Lists that differ in the environment at most, and there in nothing that is read. -/
structure VariableLists.Alike (l l' : VariableLists) : Prop where
  collection : l.collection = l'.collection
  view : l.view = l'.view

theorem VariableLists.Alike.setAll {l l' : VariableLists} (h : l.Alike l') (ws : List Write) :
    (l.setAll ws).Alike (l'.setAll ws) := by
  induction ws generalizing l l' with
  | nil => exact h
  | cons w ws ih =>
    refine ih ⟨?_, by rw [view_set, view_set, h.view]⟩
    obtain ⟨on, key, value⟩ := w
    cases on with
    | collection => exact congrArg (Variables.set key value) h.collection
    | environment => exact h.collection

/-- Workspaces of one collection, with environments of which the same is read. -/
inductive Workspace.Alike : Workspace → Workspace → Prop
  | intro {c e e'} (h : Environment.ReadsAs e e') : Alike ⟨c, some e⟩ ⟨c, some e'⟩

namespace Workspace.Alike

variable {w w' : Workspace} {l l' : VariableLists}

theorem collection (h : w.Alike w') : w.collection = w'.collection := by
  cases h
  rfl

theorem lists (h : w.Alike w') : w.lists.Alike w'.lists := by
  obtain ⟨h⟩ := h
  refine ⟨rfl, congrArg View.mk (funext fun scope => funext fun key => ?_)⟩
  cases scope with
  | collection => rfl
  | environment => exact h key

theorem keep (h : w.Alike w') (hl : l.Alike l') : (w.keep l).Alike (w'.keep l') := by
  cases h
  unfold Workspace.keep
  rw [hl.collection]
  exact .intro fun key => congrArg (·.get? .environment key) hl.view

end Workspace.Alike

/-- Every key has the same value in effect, though not at the same place of the snapshot. -/
theorem Config.get?_snapshot_alike {w w' : Workspace} (h : w.Alike w') (config : Config)
    (breadcrumb : List String) :
    (config.snapshot w.collection breadcrumb w.environment).get? =
      (config.snapshot w'.collection breadcrumb w'.environment).get? := by
  obtain @⟨c, e, e', h⟩ := h
  funext key
  rw [config.get?_snapshot c breadcrumb (some e), config.get?_snapshot c breadcrumb (some e'),
    Option.bind_some, Option.bind_some, h key]

/-- Snapshots that have values for the same keys are of one size. -/
theorem Snapshot.Sound.size_eq {s s' : Snapshot} (h : s.Sound) (h' : s'.Sound)
    (hg : s.get? = s'.get?) : s.size = s'.size := by
  have there (key : String) :
      key ∈ s.entries.map (·.key) ↔ key ∈ s'.entries.map (·.key) := by
    rw [← h.seen_iff, ← h'.seen_iff, ← h.find?_isSome, ← h'.find?_isSome]
    have := congrArg Option.isSome (congrFun hg key)
    unfold Snapshot.get? at this
    rw [Option.isSome_map, Option.isSome_map] at this
    rw [this]
  have perm := (List.perm_ext_iff_of_nodup h.distinct h'.distinct).2 there
  simpa [size] using perm.length_eq

theorem prepare_congr {s s' : Snapshot} (h : s.get? = s'.get?) (request : Request) :
    prepare request s = prepare request s' := by
  have hr : s.resolve = s'.resolve := funext fun text => congrArg (Template.resolve · text) h
  unfold prepare
  rw [hr]

variable {ω α β : Type}

/-- Two computations that go the same way, with results as stated. -/
def Together (x x' : StateM ω α) (R : α → α → Prop) : Prop :=
  ∀ world, ∃ a a' world', x world = (a, world') ∧ x' world = (a', world') ∧ R a a'

namespace Together

variable {x x' : StateM ω α} {R : α → α → Prop} {f f' : α → StateM ω β} {S : β → β → Prop}

theorem pure {a a' : α} (h : R a a') : Together (Pure.pure a : StateM ω α) (Pure.pure a') R :=
  fun world => ⟨a, a', world, rfl, rfl, h⟩

theorem of_eq (h : x = x') : Together x x' Eq :=
  fun world => ⟨_, _, _, rfl, congrFun h.symm world, rfl⟩

theorem bind (hx : Together x x' R) (hf : ∀ a a', R a a' → Together (f a) (f' a') S) :
    Together (x >>= f) (x' >>= f') S := by
  intro world
  obtain ⟨a, a', world₁, hx₁, hx₂, hr⟩ := hx world
  obtain ⟨b, b', world₂, hf₁, hf₂, hs⟩ := hf a a' hr world₁
  refine ⟨b, b', world₂, ?_, ?_, hs⟩
  · change f (x world).1 (x world).2 = _
    rw [hx₁, hf₁]
  · change f' (x' world).1 (x' world).2 = _
    rw [hx₂, hf₂]

end Together

namespace Runner

variable (r : Runner (StateM ω)) {w w' : Workspace} {l l' : VariableLists}

theorem runScripts_alike (h : l.Alike l') (phase : Phase) (response : Option Response)
    (sources : List String) :
    Together (r.runScripts phase response l sources) (r.runScripts phase response l' sources)
      fun p p' => p.1 = p'.1 ∧ p.2.Alike p'.2 := by
  induction sources generalizing l l' with
  | nil => exact .pure ⟨rfl, h⟩
  | cons source rest ih =>
    refine (Together.of_eq (by rw [h.view])).bind ?_
    rintro report _ rfl
    refine (ih (h.setAll report.writes)).bind ?_
    rintro ⟨reports, l⟩ ⟨_, l'⟩ ⟨rfl, h⟩
    exact .pure ⟨rfl, h⟩

theorem runPhase_alike (h : w.Alike w') (phase : Phase) (response : Option Response)
    (events : List Event) :
    Together (r.runPhase phase response events w) (r.runPhase phase response events w')
      fun p p' => p.1 = p'.1 ∧ p.2.Alike p'.2 := by
  refine (r.runScripts_alike h.lists phase response (phase.sources events)).bind ?_
  rintro ⟨reports, l⟩ ⟨_, l'⟩ ⟨rfl, hl⟩
  exact .pure ⟨rfl, h.keep hl⟩

theorem execute_alike {s s' : Snapshot} (h : s.get? = s'.get?) (request : Request) :
    Together (Http.execute r.network r.elapsed request s)
      (Http.execute r.network r.elapsed request s') Eq :=
  .of_eq (congrArg (Http.perform r.network r.elapsed) (prepare_congr h request))

theorem runItem_alike (h : w.Alike w') (breadcrumb : List String) (name : String) (item : Item) :
    Together (r.runItem breadcrumb name item w) (r.runItem breadcrumb name item w')
      fun p p' => p.1 = p'.1 ∧ p.2.Alike p'.2 := by
  unfold runItem
  rw [h.collection]
  refine (r.runPhase_alike h _ _ _).bind ?_
  rintro ⟨before, kept⟩ ⟨_, kept'⟩ ⟨rfl, hk⟩
  have size : (Snapshot.build (some kept.collection) breadcrumb kept.environment).size =
      (Snapshot.build (some kept'.collection) breadcrumb kept'.environment).size := by
    rw [Snapshot.build_eq_snapshot, Snapshot.build_eq_snapshot]
    exact (Config.sound_snapshot _ _ _ _).size_eq (Config.sound_snapshot _ _ _ _)
      (Config.get?_snapshot_alike hk {} breadcrumb)
  refine (r.execute_alike (Config.get?_snapshot_alike hk r.config breadcrumb) _).bind ?_
  rintro response _ rfl
  dsimp only
  rw [size]
  split
  · exact .pure ⟨rfl, hk⟩
  · refine (r.runPhase_alike hk _ _ _).bind ?_
    rintro ⟨after, w⟩ ⟨_, w'⟩ ⟨rfl, h⟩
    exact .pure ⟨rfl, h⟩

theorem runOn_alike (h : w.Alike w') (breadcrumb : List String) (name : String) :
    Together (r.runOn breadcrumb name w) (r.runOn breadcrumb name w')
      fun p p' => p.1 = p'.1 ∧ p.2.Alike p'.2 := by
  unfold runOn
  rw [h.collection]
  cases w'.collection.findRequest? breadcrumb name with
  | none => exact .pure ⟨rfl, h⟩
  | some item =>
    refine (r.runItem_alike h breadcrumb name item).bind ?_
    rintro ⟨run, w⟩ ⟨_, w'⟩ ⟨rfl, h⟩
    exact .pure ⟨rfl, h⟩

/-- Runs of a request beside one collection, on two environments, that go the same way: they have
one result and leave one collection and one state of the world, and of the environments that they
leave the same is read. -/
def SameRuns (breadcrumb : List String) (name : String) (c : Collection) (e e' : Environment) :
    Prop :=
  ∀ world, ∃ result c' f f' world',
    r.runOn breadcrumb name ⟨c, some e⟩ world = ((result, ⟨c', some f⟩), world') ∧
    r.runOn breadcrumb name ⟨c, some e'⟩ world = ((result, ⟨c', some f'⟩), world') ∧ f.ReadsAs f'

theorem sameRuns (breadcrumb : List String) (name : String) (c : Collection) {e e' : Environment}
    (h : e.ReadsAs e') : r.SameRuns breadcrumb name c e e' := by
  intro world
  obtain ⟨⟨result, w⟩, ⟨_, w'⟩, world', h₁, h₂, rfl, alike⟩ :=
    r.runOn_alike (.intro h) breadcrumb name world
  obtain @⟨c', f, f', hf⟩ := alike
  exact ⟨result, c', f, f', world', h₁, h₂, hf⟩

/-- What is switched off in an environment has no part in a run: neither in its result, nor in what
is asked of scripts and network and answered, nor in what is read afterwards, also when scripts set
keys that are switched off. Scripts that read and set in the lists themselves are no exception: they
report the same, and leave the lists as they report. -/
theorem runOn_readsAs (breadcrumb : List String) (name : String) (c : Collection) :
    (∀ e e', e.ReadsAs e' →
      r.SameRuns breadcrumb name c e e' ∧ r.logged.SameRuns breadcrumb name c e e') ∧
    (∀ e, r.SameRuns breadcrumb name c e e.withoutDisabled ∧
      r.logged.SameRuns breadcrumb name c e e.withoutDisabled) ∧
    ∀ (σ θ : Type) (deadline : Nat) (schedule : Nat → Bool) (l : VariableLists)
      (launch : Except String (Script.Launch σ θ)),
      Script.Launch.reportOn deadline schedule l launch =
        (Script.Launch.report deadline schedule l.view launch,
          l.setAll (Script.Launch.report deadline schedule l.view launch).writes) := by
  have same {e e' : Environment} (h : e.ReadsAs e') :
      r.SameRuns breadcrumb name c e e' ∧ r.logged.SameRuns breadcrumb name c e e' :=
    ⟨r.sameRuns breadcrumb name c h, r.logged.sameRuns breadcrumb name c h⟩
  exact ⟨fun _ _ h => same h, fun e => same e.readsAs_withoutDisabled,
    fun _ _ => Script.Launch.reportOn_eq⟩

/-- A script sets a token. It enables the entry that is switched off in the first environment, and
changes the only entry of the second. -/
theorem runOn_readsAs_token :
    let e : Environment := { values := [{ key := "token", value := "old", enabled := false },
      { key := "token", value := "mine" }] }
    let e' : Environment := { values := [{ key := "token", value := "mine" }] }
    let c : Collection :=
      { items := [{ name := "Ping", request := some {} }]
        events := [.ofSource .prerequest "pm.environment.set('token', 'new')"] }
    let r : Runner (StateM Nat) :=
      { engine := fun _ _ _ _ => pure { journal := [.wrote ⟨.environment, "token", "new"⟩] }
        network := fun _ => pure (.lost false) }
    e.ReadsAs e' ∧ r.SameRuns [] "Ping" c e e' := by
  intro e e' c r
  have h : e.ReadsAs e' := fun key => by simp [e, e', Variables.get?_cons]
  exact ⟨h, ((r.runOn_readsAs [] "Ping" c).1 e e' h).1⟩

end Runner

end CollectionRunner
