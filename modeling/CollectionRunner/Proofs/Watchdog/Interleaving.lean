import CollectionRunner.Watchdog

namespace CollectionRunner.Watchdog

section

variable (w : Watchdog)

theorem timeout_of_waiting (h : w.finished = false) :
    w.timeout = { w with expired := true, finished := true } := by
  unfold timeout
  rw [h]
  rfl

@[simp] theorem interrupted_timeout : w.timeout.interrupted = w.interrupted := by
  unfold timeout
  split
  · rfl
  · rfl

theorem takeCancel_of_waiting (hs : w.cancelSent = true) (hf : w.finished = false) :
    w.takeCancel = { w with finished := true } := by
  unfold takeCancel
  rw [hs, hf]
  rfl

/-- A script is told that it has to end exactly when the deadline has passed. -/
theorem poll_eq : w.poll = (w.expired, { w with interrupted := w.interrupted || w.expired }) := by
  obtain ⟨expired, interrupted, cancelSent, finished⟩ := w
  unfold poll
  cases expired with
  | false => simp
  | true => simp

theorem sendCancel_of_sent (h : w.cancelSent = true) : w.sendCancel = w := by
  cases w
  cases h
  rfl

theorem disarm_of_finished (hs : w.cancelSent = true) (hf : w.finished = true) :
    w.disarm = w := by
  unfold disarm
  rw [w.sendCancel_of_sent hs]
  unfold takeCancel
  rw [hs, hf]
  rfl

end

/-- A step of one of those who work with a watchdog. -/
inductive Act where
  /-- The supervisor has waited until the deadline. -/
  | timesOut
  /-- The supervisor that has waited so long lets the others know, and ends. -/
  | expires
  /-- The supervisor takes the message to stop, and ends. -/
  | takesCancel
  /-- The script asks whether it has to end, and is answered. -/
  | polls (told : Bool)
  /-- The owner begins to disarm the watchdog: the message to stop is sent, once. -/
  | disarms
  /-- The owner drops the watchdog, which begins to disarm it for the last time. -/
  | drops
  /-- The supervisor has ended, and so does the owner's disarming. -/
  | returns
  deriving DecidableEq, Repr

/-- A watchdog, and how far its supervisor and its owner have come. -/
structure Watch where
  watchdog : Watchdog := .armed
  /-- The supervisor has waited until the deadline, and nobody knows of it yet. -/
  overdue : Bool := false
  /-- The owner is disarming the watchdog. -/
  disarming : Bool := false
  dropped : Bool := false
  deriving DecidableEq, Repr

namespace Watch

/-- The steps that can come next. The supervisor waits once, so it takes the message to stop only if
it has not waited until the deadline; the message may also arrive too late for it. The owner does
one thing at a time, and a script may ask at any moment, even after the watchdog was dropped. -/
inductive Step : Watch → Act → Watch → Prop where
  | timesOut {w} (waiting : w.watchdog.finished = false) (timely : w.overdue = false) :
      Step w .timesOut { w with overdue := true }
  | expires {w} (late : w.overdue = true) :
      Step w .expires { w with watchdog := w.watchdog.timeout, overdue := false }
  | takesCancel {w} (sent : w.watchdog.cancelSent = true) (waiting : w.watchdog.finished = false)
      (timely : w.overdue = false) :
      Step w .takesCancel { w with watchdog := w.watchdog.takeCancel }
  | polls {w} : Step w (.polls w.watchdog.poll.1) { w with watchdog := w.watchdog.poll.2 }
  | disarms {w} (idle : w.disarming = false) (owned : w.dropped = false) :
      Step w .disarms { w with watchdog := w.watchdog.sendCancel, disarming := true }
  | drops {w} (idle : w.disarming = false) (owned : w.dropped = false) :
      Step w .drops
        { w with watchdog := w.watchdog.sendCancel, disarming := true, dropped := true }
  | returns {w} (busy : w.disarming = true) (ended : w.watchdog.finished = true) :
      Step w .returns { w with disarming := false }

/-- Steps one after another. -/
inductive Run (w : Watch) : List Act → Watch → Prop where
  | refl : Run w [] w
  | step {acts w' act w''} (h : Run w acts w') (next : Step w' act w'') :
      Run w (acts ++ [act]) w''

/-- What a watchdog knows is what has been done with it since it was armed. -/
structure Tells (acts : List Act) (w : Watch) : Prop where
  expired : w.watchdog.expired = true ↔ .expires ∈ acts
  interrupted : w.watchdog.interrupted = true ↔ .polls true ∈ acts
  told : .polls true ∈ acts → .expires ∈ acts
  timedOut : .timesOut ∈ acts ↔ w.overdue = true ∨ .expires ∈ acts
  finished : w.watchdog.finished = true ↔ .expires ∈ acts ∨ .takesCancel ∈ acts
  overdue : w.overdue = true → w.watchdog.finished = false
  cancelled : .takesCancel ∈ acts → .timesOut ∉ acts
  sent : w.watchdog.cancelSent = true ↔ .disarms ∈ acts ∨ .drops ∈ acts
  disarming : w.disarming = true → w.watchdog.cancelSent = true
  returned : .returns ∈ acts → w.watchdog.cancelSent = true ∧ w.watchdog.finished = true

theorem tells_armed : Tells [] {} := by
  constructor <;> simp [armed]

/-- Every step is known afterwards. -/
theorem Tells.step {acts : List Act} {w w' : Watch} {act : Act} (h : Tells acts w)
    (next : Step w act w') : Tells (acts ++ [act]) w' := by
  obtain ⟨expired, interrupted, told, timedOut, finished, overdue, cancelled, sent, disarming,
    returned⟩ := h
  cases next with
  | timesOut waiting timely =>
    -- a supervisor that waits has not taken the message to stop
    have notTaken : .takesCancel ∉ acts := fun taken => by simp [finished.2 (.inr taken)] at waiting
    constructor <;> simp_all
  | expires late =>
    have waiting := overdue late
    have notTaken : .takesCancel ∉ acts := fun taken => cancelled taken (timedOut.2 (.inl late))
    rw [w.watchdog.timeout_of_waiting waiting]
    constructor <;> simp_all
  | takesCancel sent waiting timely =>
    have notExpired : .expires ∉ acts := fun told => by simp [finished.2 (.inl told)] at waiting
    rw [w.watchdog.takeCancel_of_waiting sent waiting]
    constructor <;> simp_all
  | polls =>
    have known : w.watchdog.interrupted = true → w.watchdog.expired = true :=
      fun h => expired.2 (told (interrupted.1 h))
    rw [w.watchdog.poll_eq]
    constructor
    case told =>
      simp only [List.mem_append, List.mem_singleton, Act.polls.injEq]
      rintro (before | now)
      · exact .inl (told before)
      · exact .inl (expired.1 now.symm)
    all_goals simp_all
  | disarms idle owned =>
    constructor <;> simp_all [sendCancel]
  | drops idle owned =>
    constructor <;> simp_all [sendCancel]
  | returns busy ended =>
    have sent := disarming busy
    constructor <;> simp_all

theorem tells_of_run {acts : List Act} {w : Watch} (h : Run {} acts w) : Tells acts w := by
  induction h with
  | refl => exact tells_armed
  | step _ next ih => exact ih.step next

/-- A supervisor that took the message to stop lets nobody know of the deadline. -/
theorem Tells.silent {acts : List Act} {w : Watch} (h : Tells acts w)
    (taken : .takesCancel ∈ acts) : .expires ∉ acts := by
  intro expires
  exact h.cancelled taken (h.timedOut.2 (.inr expires))

theorem Run.append {w w' w'' : Watch} {acts later : List Act} (h : Run w acts w')
    (h' : Run w' later w'') : Run w (acts ++ later) w'' := by
  induction h' with
  | refl => rwa [List.append_nil]
  | step _ next ih =>
    rw [←List.append_assoc]
    exact ih.step next

theorem Step.told_eq {w w' : Watch} {told : Bool} (h : Step w (.polls told) w') :
    told = w.watchdog.expired := by
  cases h
  rw [poll_eq]

theorem Step.expired_of_expired {w w' : Watch} {act : Act} (next : Step w act w')
    (h : w.watchdog.expired = true) : w'.watchdog.expired = true := by
  cases next with
  | timesOut | disarms | drops | returns => exact h
  | expires =>
    unfold timeout
    split
    · exact h
    · rfl
  | takesCancel =>
    unfold takeCancel
    split <;> exact h
  | polls => rwa [poll_eq]

/-- Once the deadline has passed for all to see, every script that asks has to end. -/
theorem Run.polls_of_expired {w w' : Watch} {later : List Act} (h : Run w later w')
    (expired : w.watchdog.expired = true) :
    w'.watchdog.expired = true ∧ .polls false ∉ later := by
  induction h with
  | refl => exact ⟨expired, List.not_mem_nil⟩
  | step _ next ih =>
    obtain ⟨before, asked⟩ := ih
    refine ⟨next.expired_of_expired before, ?_⟩
    intro answered
    rcases List.mem_append.1 answered with earlier | now
    · exact asked earlier
    · rw [List.mem_singleton] at now
      subst now
      have told := next.told_eq
      rw [before] at told
      contradiction

/-- A supervisor that has ended says nothing new. -/
theorem expired_of_finished {acts later : List Act} {w w' : Watch} (h : Run {} acts w)
    (h' : Run w later w') (ended : w.watchdog.finished = true) :
    w'.watchdog.expired = w.watchdog.expired := by
  have known := tells_of_run h
  have after := tells_of_run (h.append h')
  rcases known.finished.1 ended with expires | taken
  · rw [known.expired.2 expires, after.expired.2 (List.mem_append_left later expires)]
  · have never := after.silent (List.mem_append_left later taken)
    rw [Bool.eq_false_iff.2 (mt known.expired.1 (known.silent taken)),
      Bool.eq_false_iff.2 (mt after.expired.1 never)]

/-- The owner's disarming comes to its end, as the supervisor can always go on until it ends. -/
theorem returns_of_disarming {acts : List Act} {w : Watch} (h : Run {} acts w)
    (busy : w.disarming = true) : ∃ later w', Run w later w' ∧ .returns ∈ later := by
  have known := tells_of_run h
  cases ended : w.watchdog.finished with
  | true => exact ⟨_, _, Run.refl.step (.returns busy ended), by simp⟩
  | false =>
    cases late : w.overdue with
    | true =>
      refine ⟨_, _, (Run.refl.step (.expires late)).step (.returns busy ?_), by simp⟩
      rw [w.watchdog.timeout_of_waiting ended]
    | false =>
      have sent := known.disarming busy
      refine ⟨_, _, (Run.refl.step (.takesCancel sent ended late)).step (.returns busy ?_), by simp⟩
      rw [w.watchdog.takeCancel_of_waiting sent ended]

/-- What the flags of a watchdog tell, in whatever order those who work with it take their steps. A
script is told to end exactly when the deadline has passed for all to see, and neither flag is ever
taken back. A supervisor that took the message to stop lets the deadline pass unseen; and after the
owner has disarmed the watchdog, which can always be done, nothing becomes of it any more, also when
it is disarmed again or dropped. -/
theorem flags_of_run {acts : List Act} {w : Watch} (h : Run {} acts w) :
    (w.watchdog.interrupted = true → w.watchdog.expired = true) ∧
    (w.watchdog.expired = true ↔ .expires ∈ acts) ∧
    (w.watchdog.interrupted = true ↔ .polls true ∈ acts) ∧
    (∀ told w', Step w (.polls told) w' → (told = true ↔ w.watchdog.expired = true)) ∧
    (∀ later w', Run w later w' →
      (w.watchdog.expired = true → w'.watchdog.expired = true ∧ .polls false ∉ later) ∧
      (w.watchdog.interrupted = true → w'.watchdog.interrupted = true) ∧
      (.takesCancel ∈ acts → w'.watchdog.expired = false ∧ .polls true ∉ acts ++ later) ∧
      (.returns ∈ acts → w'.watchdog.expired = w.watchdog.expired)) ∧
    (.returns ∈ acts → w.watchdog.disarm = w.watchdog ∧
      (∀ w', Step w .disarms w' → w'.watchdog = w.watchdog ∧ Step w' .returns w) ∧
      (∀ w', Step w .drops w' →
        w'.watchdog = w.watchdog ∧ Step w' .returns { w with dropped := true })) ∧
    (w.disarming = true → ∃ later w', Run w later w' ∧ .returns ∈ later) := by
  have known := tells_of_run h
  refine ⟨?_, known.expired, known.interrupted, ?_, ?_, ?_, returns_of_disarming h⟩
  · intro interrupted
    exact known.expired.2 (known.told (known.interrupted.1 interrupted))
  · intro told w' asks
    rw [asks.told_eq]
  · intro later w' h'
    have after := tells_of_run (h.append h')
    refine ⟨h'.polls_of_expired, ?_, ?_, ?_⟩
    · intro interrupted
      exact after.interrupted.2 (List.mem_append_left later (known.interrupted.1 interrupted))
    · intro taken
      have never := after.silent (List.mem_append_left later taken)
      exact ⟨Bool.eq_false_iff.2 (mt after.expired.1 never), mt after.told never⟩
    · intro returned
      exact expired_of_finished h h' (known.returned returned).2
  · intro returned
    obtain ⟨sent, ended⟩ := known.returned returned
    refine ⟨w.watchdog.disarm_of_finished sent ended, ?_, ?_⟩
    · intro w' again
      cases again with
      | disarms idle owned =>
        rw [w.watchdog.sendCancel_of_sent sent]
        refine ⟨rfl, ?_⟩
        have done := Step.returns (w := { w with disarming := true }) rfl ended
        rwa [←idle] at done
    · intro w' again
      cases again with
      | drops idle owned =>
        rw [w.watchdog.sendCancel_of_sent sent]
        refine ⟨rfl, ?_⟩
        have done := Step.returns (w := { w with disarming := true, dropped := true }) rfl ended
        rwa [←idle] at done

/-- The owner disarms a watchdog whose supervisor has waited until the deadline but has not said so
yet. -/
def lateDisarm : List Act :=
  [.polls false, .timesOut, .disarms, .polls false, .expires, .polls true, .returns, .drops]

/-- The message to stop comes too late, and the script is told to end all the same. -/
theorem flags_of_lateDisarm : ∃ w, Run {} lateDisarm w ∧ w.watchdog.interrupted = true ∧
    w.watchdog.disarm = w.watchdog ∧
    (∀ later w', Run w later w' → w'.watchdog.expired = true ∧ .polls false ∉ later) ∧
    ∃ later w', Run w later w' ∧ .returns ∈ later := by
  have h : Run {} lateDisarm
      { watchdog := ⟨true, true, true, true⟩, disarming := true, dropped := true } :=
    ((((((((Run.refl.step .polls).step (.timesOut rfl rfl)).step (.disarms rfl rfl)).step
      .polls).step (.expires rfl)).step .polls).step (.returns rfl rfl)).step (.drops rfl rfl))
  obtain ⟨-, expired, interrupted, -, always, again, ends⟩ := flags_of_run h
  refine ⟨_, h, interrupted.2 (by decide), (again (by decide)).1, ?_, ends rfl⟩
  intro later w' h'
  exact (always later w' h').1 (expired.2 (by decide))

end Watch

end CollectionRunner.Watchdog
