import CollectionRunner.Proofs.Script.Trace
import CollectionRunner.Script.Run

namespace CollectionRunner.Script

namespace Behaviour

variable {σ θ : Type} {schedule : Nat → Bool}

/-- No script code goes on once it was told to end, or once a test was interrupted. -/
inductive Uncatchable : Behaviour σ θ → Prop where
  | ended {ending state} : Uncatchable (.ended ending state)
  | poll {next state} (told : next true = .ended .interrupted state)
      (rest : Uncatchable (next false)) : Uncatchable (.poll next)
  | get {scope key next} (rest : ∀ found, Uncatchable (next found)) :
      Uncatchable (.get scope key next)
  | set {w next} (rest : Uncatchable next) : Uncatchable (.set w next)
  | log {level line next} (rest : Uncatchable next) : Uncatchable (.log level line next)
  | attempt {body next} (shown : Uncatchable body)
      (rest : ∀ text state, Uncatchable (next text state)) : Uncatchable (.attempt body next)
  | test {state name callback describe next}
      (called : ∀ body, callback = some body → Uncatchable body)
      (described : ∀ thrown state, Uncatchable (describe thrown state))
      (told : ∀ state, ∃ left, next .interrupted state = .ended .interrupted left)
      (rest : ∀ ending state, Uncatchable (next ending state)) :
      Uncatchable (.test state name callback describe next)

theorem uncatchable_display {v : Shown σ θ} {next : String → σ → Behaviour σ θ}
    (json : ∀ body, v.json = some body → ∀ state, (body state).Uncatchable)
    (plain : ∀ state, (v.plain state).Uncatchable)
    (rest : ∀ text state, (next text state).Uncatchable) (state : σ) :
    (display v state next).Uncatchable := by
  have shown (state : σ) : Uncatchable (.attempt (v.plain state)
      fun text state => next (text.getD unprintable) state) :=
    .attempt (plain state) (fun _ _ => rest _ _)
  unfold display
  split
  · exact rest _ _
  · rename_i body _ h
    refine .attempt (json body h state) ?_
    intro text state
    cases text with
    | some text => exact rest text state
    | none => exact shown state
  · exact shown state

theorem uncatchable_describeException {message name : σ → Behaviour σ θ}
    {next : String → σ → Behaviour σ θ} (hm : ∀ state, (message state).Uncatchable)
    (hn : ∀ state, (name state).Uncatchable) (rest : ∀ text state, (next text state).Uncatchable)
    (state : σ) : (describeException message name state next).Uncatchable :=
  .attempt (hm state) (fun _ state => .attempt (hn state) (fun _ _ => rest _ _))

end Behaviour

namespace Step

open Behaviour

theorem cut_eq (state : Store × Bodies) (b : Full) :
    ∃ left, cut state b = .ended .interrupted left := by
  cases b
  all_goals exact ⟨_, rfl⟩

theorem uncatchable_cut (state : Store × Bodies) (b : Full) : (cut state b).Uncatchable := by
  obtain ⟨left, h⟩ := cut_eq state b
  rw [h]
  exact .ended

theorem uncatchable_behaviourWith {jump : Step → Bodies → Entered → Full}
    (hj : ∀ s bodies entered, (jump s bodies entered).Uncatchable) (s : Step) (bodies : Bodies)
    (entered : Entered) : (behaviourWith jump s bodies entered).Uncatchable := by
  fun_induction behaviourWith jump s bodies entered with
  | case1 => exact .ended
  | case2 next bodies entered told rest =>
    obtain ⟨left, h⟩ := cut_eq ({}, bodies) (behaviourWith jump (next true) bodies entered)
    exact .poll (by simpa using h) rest
  | case3 scope key next bodies entered rest => exact .get rest
  | case4 w next bodies entered rest => exact .set rest
  | case5 level line next bodies entered rest => exact .log rest
  | case6 store name callback described next bodies entered called thrown told rest =>
    refine .test ?_ (fun _ _ => thrown _ _ _) (fun _ => cut_eq _ _) ?_
    · intro body h
      cases callback with
      | none => simp at h
      | some callback =>
        simp only [Option.some.injEq] at h
        rw [←h]
        exact called
    · intro ending state
      cases ending with
      | returned text => exact rest _ _ _
      | threw thrown => exact rest _ _ _
      | interrupted => exact uncatchable_cut _ _
  | case7 text isJson json plain store next bodies entered shown plain rest =>
    refine uncatchable_display ?_ (fun _ => plain _ _) (fun _ _ => rest _ _ _) _
    intro body h state
    cases isJson with
    | false => simp at h
    | true =>
      simp only [if_true, Option.some.injEq] at h
      rw [←h]
      exact shown _ _
  | case8 message name store next bodies entered message name rest =>
    exact uncatchable_describeException (fun _ => message _ _) (fun _ => name _ _)
      (fun _ _ => rest _ _ _) _
  | case9 body next bodies entered id rest => exact rest
  | case10 => exact hj _ _ _
  | case11 id signal store next bodies entered h rest => exact rest
  | case12 => exact hj _ _ _
  | case13 => exact .ended
  | case14 => exact hj _ _ _
  | case15 => exact .ended

theorem uncatchable_behaviour (n : Nat) (s : Step) (bodies : Bodies) (entered : Entered) :
    (behaviour n s bodies entered).Uncatchable := by
  induction n generalizing s bodies entered with
  | zero => exact uncatchable_behaviourWith (fun _ _ _ => .ended) s bodies entered
  | succ n ih => exact uncatchable_behaviourWith ih s bodies entered

end Step

/-- Nothing in a script of the engine goes on once it was told to end. -/
structure Launch.Uncatchable {σ θ : Type} (launch : Launch σ θ) : Prop where
  body : launch.body.Uncatchable
  describe : ∀ thrown state, (launch.describe thrown state).Uncatchable
  describeInterrupt : ∀ state, (launch.describeInterrupt state).Uncatchable

theorem Launch.Uncatchable.description {σ θ : Type} {launch : Launch σ θ} (hl : launch.Uncatchable)
    {ending : Ending θ} {state : σ} {description : Behaviour σ θ}
    (h : launch.description? ending state = some description) : description.Uncatchable := by
  cases ending with
  | returned text => cases h
  | threw thrown =>
    obtain rfl := Option.some.inj h
    exact hl.describe thrown state
  | interrupted =>
    obtain rfl := Option.some.inj h
    exact hl.describeInterrupt state

theorem uncatchable_launch {limits : Limits} {source : String} {phase : Phase}
    {response : Option Response} {launch : Launch (Store × Step.Bodies) Value}
    (h : Script.launch limits source phase response = .ok launch) : launch.Uncatchable := by
  unfold Script.launch at h
  split at h
  · simp at h
  · cases hn : nullPlace? source with
    | some place =>
      simp only [hn, Except.ok.injEq] at h
      rw [←h]
      exact ⟨.ended, fun _ _ => .ended, fun _ => .ended⟩
    | none =>
      simp only [hn, Except.ok.injEq] at h
      rw [←h]
      exact ⟨Step.uncatchable_behaviour _ _ _ _, fun _ _ => Step.uncatchable_behaviour _ _ _ _,
        fun _ => Step.uncatchable_behaviour _ _ _ _⟩

/-- What follows an interrupt within the calls `inner`: either they run tests, and all of them pass
it on, the innermost first; or some call returns all the same. -/
def Answer (inner : List Reentry) (after : List Mark) (interrupted : Prop) : Prop :=
  ((∀ call ∈ inner, call = .test) ∧ after = inner.reverse.map (.left · false) ∧ interrupted) ∨
    ((∃ call ∈ inner, call ≠ .test) ∧ ∃ call, .left call true ∈ after)

namespace Answer

variable {inner : List Reentry} {after rest : List Mark} {interrupted : Prop}

/-- A call that is not of a test returns. -/
theorem of_returned (call : Reentry) (hc : call ≠ .test) (hi : call ∈ inner)
    (hr : .left call true ∈ after) : Answer inner after interrupted :=
  .inr ⟨⟨call, hi, hc⟩, call, hr⟩

/-- A test that is interrupted passes the interrupt on. -/
theorem test (h : Answer inner after interrupted) {later : Prop} (hl : interrupted → later) :
    Answer (.test :: inner) (after ++ [.left .test false]) later := by
  rcases h with ⟨tests, rfl, h⟩ | ⟨⟨other, hi, ho⟩, call, hc⟩
  · refine .inl ⟨?_, ?_, hl h⟩
    · simpa using tests
    · simp
  · exact .inr ⟨⟨other, by simp [hi], ho⟩, call, by simp [hc]⟩

/-- Calls that were not interrupted ran no code that was told to end, unless some call asked for a
text. -/
theorem outlived (h : Answer inner after interrupted) (hn : ¬interrupted) {calls : List Reentry}
    (hs : ∀ call ∈ inner, call ∈ calls) {later : Prop} : Answer calls (after ++ rest) later := by
  rcases h with ⟨-, -, h⟩ | ⟨⟨other, hi, ho⟩, call, hc⟩
  · exact absurd h hn
  · exact .inr ⟨⟨other, hs other hi, ho⟩, call, by simp [hc]⟩

end Answer

namespace Behaviour

variable {σ θ : Type} {schedule : Nat → Bool}

/-- Where each interrupt of a run leads, within the calls around the run and those inside it. -/
theorem Runs.answer {around : List Reentry} {b : Behaviour σ θ} {l l' : Ledger}
    {marks : List Mark} {ending : Ending θ} {state : σ}
    (h : Runs schedule around b l marks ending state l') (hb : b.Uncatchable)
    {before after : List Mark} {calls : List Reentry}
    (hm : marks = before ++ .answered calls true :: after) :
    ∃ inner, calls = around ++ inner ∧ Answer inner after (ending = .interrupted) := by
  induction h generalizing before after calls with
  | ended => simp at hm
  | @poll around next l marks ending state l' rest ih =>
    cases hb with
    | poll told go =>
      cases hp : (l.poll schedule).1 with
      | false =>
        rw [hp] at hm ih
        obtain ⟨_, -, hr⟩ := split_cons hm (by simp)
        exact ih go hr
      | true =>
        rw [hp, told] at rest
        cases rest with
        | ended =>
          rw [hp] at hm
          cases before with
          | nil =>
            obtain ⟨ha, rfl⟩ := List.cons.inj hm
            simp only [Mark.answered.injEq, and_true] at ha
            exact ⟨[], by simp [ha], .inl ⟨by simp, rfl, rfl⟩⟩
          | cons mark before => simp at hm
  | get rest ih =>
    cases hb with
    | get go => exact ih (go _) hm
  | set rest ih =>
    cases hb with
    | set go =>
      obtain ⟨_, -, hr⟩ := split_cons hm (by simp)
      exact ih go hr
  | log rest ih =>
    cases hb with
    | log go =>
      obtain ⟨_, -, hr⟩ := split_cons hm (by simp)
      exact ih go hr
  | attempt shown rest ihs ih =>
    cases hb with
    | attempt body go =>
      rcases split_append hm with ⟨tail, hs, rfl⟩ | ⟨tail, -, hr⟩
      · obtain ⟨inner, rfl, -⟩ := ihs body hs
        exact ⟨.showing :: inner, by simp, .of_returned .showing (by decide) (by simp) (by simp)⟩
      · obtain ⟨_, -, hr⟩ := split_cons hr (by simp)
        exact ih (go _ _) hr
  | nameless rest ih =>
    cases hb with
    | test _ _ _ go =>
      obtain ⟨_, -, hr⟩ := split_cons hm (by simp)
      exact ih (go _ _) hr
  | idle rest ih =>
    cases hb with
    | test _ _ _ go =>
      obtain ⟨_, -, hr⟩ := split_cons hm (by simp)
      exact ih (go _ _) hr
  | passed called rest ihc ih =>
    cases hb with
    | test body _ _ go =>
      rcases split_append hm with ⟨tail, hc, rfl⟩ | ⟨tail, -, hr⟩
      · obtain ⟨inner, rfl, answer⟩ := ihc (body _ rfl) hc
        exact ⟨.test :: inner, by simp, answer.outlived (by simp) (by simp +contextual)⟩
      · obtain ⟨_, -, hr⟩ := split_cons hr (by simp)
        obtain ⟨_, -, hr⟩ := split_cons hr (by simp)
        exact ih (go _ _) hr
  | unwound called rest ihc ih =>
    cases hb with
    | test body _ told _ =>
      obtain ⟨left, hl⟩ := told _
      rw [hl] at rest
      cases rest with
      | ended =>
        rcases split_append hm with ⟨tail, hc, rfl⟩ | ⟨tail, -, hr⟩
        · obtain ⟨inner, rfl, answer⟩ := ihc (body _ rfl) hc
          exact ⟨.test :: inner, by simp, answer.test (fun _ => rfl)⟩
        · obtain ⟨_, -, hr⟩ := split_cons hr (by simp)
          simp at hr
  | passedOn called late rest ihc ih =>
    cases hb with
    | test body _ _ go =>
      rcases split_append hm with ⟨tail, hc, rfl⟩ | ⟨tail, -, hr⟩
      · obtain ⟨inner, rfl, answer⟩ := ihc (body _ rfl) hc
        exact ⟨.test :: inner, by simp, answer.outlived (by simp) (by simp +contextual)⟩
      · obtain ⟨_, -, hr⟩ := split_cons hr (by simp)
        exact ih (go _ _) hr
  | failed called timely described rest ihc ihd ih =>
    cases hb with
    | test body described _ go =>
      rcases split_append hm with ⟨tail, hc, rfl⟩ | ⟨tail, -, hr⟩
      · obtain ⟨inner, rfl, answer⟩ := ihc (body _ rfl) hc
        exact ⟨.test :: inner, by simp, answer.outlived (by simp) (by simp +contextual)⟩
      rcases split_append hr with ⟨tail, hd, rfl⟩ | ⟨tail, -, hr⟩
      · obtain ⟨inner, rfl, -⟩ := ihd (described _ _) hd
        exact ⟨.test :: .description :: inner, by simp,
          .of_returned .description (by decide) (by simp) (by simp)⟩
      · obtain ⟨_, -, hr⟩ := split_cons hr (by simp)
        obtain ⟨_, -, hr⟩ := split_cons hr (by simp)
        obtain ⟨_, -, hr⟩ := split_cons hr (by simp)
        exact ih (go _ _) hr

/-- A value is always shown, whatever becomes of the script code that is asked for its text. -/
theorem run_display (schedule : Nat → Bool) (v : Shown σ θ) (next : String → σ → Behaviour σ θ)
    (state : σ) (l : Ledger) :
    ∃ text state' l',
      (display v state next).run schedule l = (next text state').run schedule l' := by
  have plain (state : σ) (l : Ledger) : ∃ text state' l',
      run schedule
        (.attempt (v.plain state) fun text state => next (text.getD unprintable) state) l =
        (next text state').run schedule l' := ⟨_, _, _, rfl⟩
  unfold display
  split
  · exact ⟨_, _, _, rfl⟩
  · rename_i json _ _
    rcases hj : (json state).run schedule l with ⟨ending, state', l'⟩
    simp only [run, hj]
    cases ending.text? with
    | some text => exact ⟨text, state', l', rfl⟩
    | none => exact plain state' l'
  · exact plain state l

end Behaviour

namespace Launch

variable {σ θ : Type} {schedule : Nat → Bool}

theorem epilogue_cases (schedule : Nat → Bool) (launch : Launch σ θ) (l : Ledger) :
    launch.epilogue schedule l = [] ∨ ∃ ending state l' description,
      launch.description? ending state = some description ∧
      launch.epilogue schedule l =
        description.trace schedule [.description] l' ++ [.left .description true] := by
  unfold epilogue
  dsimp only
  split
  · rename_i description h
    exact .inr ⟨_, _, _, description, h, rfl⟩
  · exact .inl rfl

/-- Where each interrupt of a whole script leads: through tests to the end of the script, or to a
call that returns all the same. -/
theorem answer {launch : Launch σ θ} (hl : launch.Uncatchable) {l : Ledger}
    {before after : List Mark} {calls : List Reentry}
    (h : launch.trace schedule l = before ++ .answered calls true :: after) :
    ((∀ call ∈ calls, call = .test) ∧ (launch.body.run schedule l).1 = .interrupted ∧
        after = calls.reverse.map (.left · false) ++ launch.epilogue schedule l) ∨
      ((∃ call ∈ calls, call ≠ .test) ∧ ∃ call, .left call true ∈ after) := by
  have body := Behaviour.runs_trace schedule [] launch.body l
  rcases split_append h with ⟨tail, hb, rfl⟩ | ⟨tail, -, hd⟩
  · obtain ⟨inner, rfl, answer⟩ := body.answer hl.body hb
    rcases answer with ⟨tests, rfl, ended⟩ | ⟨others, call, hc⟩
    · exact .inl ⟨tests, ended, rfl⟩
    · exact .inr ⟨others, call, List.mem_append_left _ hc⟩
  · rcases launch.epilogue_cases schedule l with he | ⟨_, _, l', description, hdescription, he⟩
    · simp [he] at hd
    · have described := Behaviour.runs_trace schedule [.description] description l'
      rcases split_append (he ▸ hd) with ⟨tail, ht, rfl⟩ | ⟨tail, -, ht⟩
      · obtain ⟨inner, rfl, -⟩ := described.answer (hl.description hdescription) ht
        exact .inr ⟨⟨.description, by simp, by decide⟩, .description, by simp⟩
      · obtain ⟨_, -, ht⟩ := split_cons ht (by simp)
        simp at ht

/-- Only calls that run tests pass a failure on. -/
theorem test_of_left {launch : Launch σ θ} {l : Ledger} {call : Reentry}
    (h : .left call false ∈ launch.trace schedule l) : call = .test := by
  rcases List.mem_append.1 h with hb | hd
  · exact (Behaviour.runs_trace schedule [] launch.body l).test_of_left hb
  · rcases launch.epilogue_cases schedule l with he | ⟨_, _, l', description, -, he⟩
    · simp [he] at hd
    · rcases List.mem_append.1 (he ▸ hd) with hd | last
      · exact (Behaviour.runs_trace schedule [.description] description l').test_of_left hd
      · simp at last

/-- A script that was told to end within these calls does so: it ends with the interrupt, each of
the calls passes it on, the innermost first, and nothing is recorded any more. -/
structure Unwinds (schedule : Nat → Bool) (view : View) (launch : Launch σ θ)
    (calls : List Reentry) (after : List Mark) : Prop where
  ended : (launch.body.run schedule { view }).1 = .interrupted
  passedOn : calls.reverse.map (.left · false) <+: after
  silent : ∀ e, .recorded e ∉ after

/-- An interrupt unwinds the whole script exactly when all the calls around it run tests and nothing
is recorded while the interrupt's own error is described in the end, which reads properties that
script code may compute. A call that asks for a text goes on instead, so the console records its
line after an interrupt. Scripts of the engine are among those that this is about. -/
theorem interrupt_unwinds_iff (deadline : Nat) (view : View) {launch : Launch σ θ}
    (hl : launch.Uncatchable) {before after : List Mark} {calls : List Reentry}
    (h : launch.trace schedule { view } = before ++ .answered calls true :: after) :
    (launch.Unwinds schedule view calls after ↔
      (∀ call ∈ calls, call = .test) ∧ ∀ e, .recorded e ∉ launch.epilogue schedule { view }) ∧
    ((∀ call ∈ calls, call = .test) →
      (∃ state l', launch.body.run schedule { view } = (.interrupted, state, l')) ∧
      after = calls.reverse.map (.left · false) ++ launch.epilogue schedule { view }) ∧
    Launch.report deadline schedule view (.ok launch) =
      { journal := (before ++ after).filterMap (·.event?), failure := some (.timeout deadline) } ∧
    (∀ (v : Behaviour.Shown σ θ) (state : σ) (level : Level) (next : σ → Behaviour σ θ)
      (l : Ledger), ∃ (line : String) (state' : σ) (l' : Ledger),
      (Behaviour.display v state fun line state => .log level line (next state)).run schedule l =
        (next state').run schedule (l'.record (.logged level line))) ∧
    ∀ (limits : Limits) (source : String) (phase : Phase) (response : Option Response)
      (launch : Launch (Store × Step.Bodies) Value),
      Script.launch limits source phase response = .ok launch → launch.Uncatchable := by
  have ledger := launch.conclude_ledger schedule { view }
  rw [h] at ledger
  have told : (launch.conclude schedule { view }).2.interrupted = true := by
    simp [ledger.2, Mark.isInterrupt]
  have report : Launch.report deadline schedule view (.ok launch) =
      { journal := (before ++ after).filterMap (·.event?)
        failure := some (.timeout deadline) } := by
    simp only [Launch.report, told, if_true, ledger.1]
    simp [Mark.event?]
  have shown (v : Behaviour.Shown σ θ) (state : σ) (level : Level) (next : σ → Behaviour σ θ)
      (l : Ledger) := Behaviour.run_display schedule v
    (fun line state => .log level line (next state)) state l
  have tests (unwinds : launch.Unwinds schedule view calls after) (call : Reentry)
      (hc : call ∈ calls) : call = .test := by
    have failed : .left call false ∈ after :=
      unwinds.passedOn.subset (List.mem_map_of_mem (List.mem_reverse.2 hc))
    exact test_of_left (h ▸ List.mem_append_right _ (List.mem_cons_of_mem _ failed))
  have engine (limits : Limits) (source : String) (phase : Phase) (response : Option Response)
      (launch : Launch (Store × Step.Bodies) Value)
      (launched : Script.launch limits source phase response = .ok launch) :
      launch.Uncatchable := uncatchable_launch launched
  rcases answer hl h with ⟨all, ended, rfl⟩ | ⟨⟨other, hi, ho⟩, -⟩
  · refine ⟨⟨?_, ?_⟩, fun _ => ⟨⟨_, _, Prod.ext ended rfl⟩, rfl⟩, report, shown, engine⟩
    · intro unwinds
      exact ⟨all, fun e he => unwinds.silent e (List.mem_append_right _ he)⟩
    · rintro ⟨-, silent⟩
      refine ⟨ended, List.prefix_append _ _, ?_⟩
      intro e he
      rcases List.mem_append.1 he with left | he
      · simp at left
      · exact silent e he
  · have withheld : ¬ ∀ call ∈ calls, call = .test := fun all => ho (all other hi)
    exact ⟨⟨fun unwinds => absurd (tests unwinds) withheld, fun all => absurd all.1 withheld⟩,
      fun all => absurd all withheld, report, shown, engine⟩

/-- A test whose function goes on until it is told to end, and a variable that is set after it. -/
def spinningTest : String :=
  "pm.test('spins', () => \x7b while (true) \x7b\x7d \x7d); pm.environment.set('after', 'reached');"

/-- The variable is not set any more. -/
theorem interrupt_unwinds_spinningTest :
    ∃ launch after,
      Script.launch ⟨30000, 0⟩ spinningTest .test none = .ok launch ∧
      launch.trace (2 ≤ ·) { view := ⟨fun _ _ => none⟩ } =
        [.answered [.test] false, .answered [.test] false] ++ .answered [.test] true :: after ∧
      launch.Unwinds (2 ≤ ·) ⟨fun _ _ => none⟩ [.test] after ∧
      Launch.report 30000 (2 ≤ ·) ⟨fun _ _ => none⟩ (.ok launch) =
        { journal := [], failure := some (.timeout 30000) } := by
  have ran : ∃ launch ∈ (Script.launch ⟨30000, 0⟩ spinningTest .test none).toOption,
      launch.trace (2 ≤ ·) { view := ⟨fun _ _ => none⟩ } =
        [.answered [.test] false, .answered [.test] false] ++ .answered [.test] true ::
          [.left .test false, .left .showing true, .left .showing true,
            .left .description true] := by
    decide +kernel
  obtain ⟨launch, launched, traced⟩ := exists_of_toOption ran
  obtain ⟨unwinds, tests, report, -⟩ := interrupt_unwinds_iff 30000 ⟨fun _ _ => none⟩
    (uncatchable_launch launched) traced
  obtain ⟨-, after⟩ := tests (by simp)
  refine ⟨launch, _, launched, traced, unwinds.2 ⟨by simp, fun e he => ?_⟩, report⟩
  have later := List.mem_append_right ([Reentry.test].reverse.map (Mark.left · false)) he
  rw [← after] at later
  simp at later

/-- A call of the console with an object whose JSON text does not come until it is told to end. -/
def spinningText : String := "console.log(\x7btoJSON() \x7b while (true) \x7b\x7d \x7d\x7d);"

/-- The call returns although its object was told to end, and its line is recorded. -/
theorem line_after_interrupt :
    ∃ launch after,
      Script.launch ⟨30000, 0⟩ spinningText .test none = .ok launch ∧
      launch.trace (2 ≤ ·) { view := ⟨fun _ _ => none⟩ } =
        [.answered [.showing] false, .answered [.showing] false] ++
          .answered [.showing] true :: after ∧
      .left .showing true ∈ after ∧ .recorded (.logged .log "[object Object]") ∈ after ∧
      ¬ launch.Unwinds (2 ≤ ·) ⟨fun _ _ => none⟩ [.showing] after := by
  have ran : ∃ launch ∈ (Script.launch ⟨30000, 0⟩ spinningText .test none).toOption,
      launch.trace (2 ≤ ·) { view := ⟨fun _ _ => none⟩ } =
        [.answered [.showing] false, .answered [.showing] false] ++ .answered [.showing] true ::
          [.left .showing true, .left .showing true,
            .recorded (.logged .log "[object Object]")] := by
    decide +kernel
  obtain ⟨launch, launched, traced⟩ := exists_of_toOption ran
  have recorded : Mark.recorded (.logged .log "[object Object]") ∈
      [.left .showing true, .left .showing true, .recorded (.logged .log "[object Object]")] := by
    simp
  exact ⟨launch, _, launched, traced, by simp, recorded, fun unwinds => unwinds.silent _ recorded⟩

/-- A script that computes the name of the interrupt's error sets a variable while the error is
described, after its test was told to end. -/
example :
    ∃ launch ∈ (Script.launch ⟨30000, 0⟩
        "Object.defineProperty(InternalError.prototype, 'name',
          \x7b get: () => pm.environment.set('after', 'reached') \x7d);
        pm.test('spins', () => \x7b while (true) \x7b\x7d \x7d);" .test none).toOption,
      launch.trace (fun _ => true) { view := ⟨fun _ _ => none⟩ } =
        [.answered [.test] true, .left .test false, .left .showing true,
          .recorded (.wrote ⟨.environment, "after", "reached"⟩), .left .showing true,
          .left .description true] := by
  decide +kernel

end Launch

end CollectionRunner.Script
