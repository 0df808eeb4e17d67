import CollectionRunner.Proofs.Http.Names
import CollectionRunner.Proofs.Script.Beginning
import CollectionRunner.Proofs.Script.NumberText

namespace CollectionRunner.Script.Host

open Exec Decimal Binary64

variable {s : Store} {r : Response} {v : Value} {P Q : Prop} {x : Float}

/-- What decides a check of the status with a value: it gives nothing if the condition holds, and
throws an error otherwise. -/
structure Judges (s : Store) (v : Value) (passes : Prop) : Prop where
  gives : passes → ∀ this rest, Returns (statusCode this (v :: rest)) s .undefined s
  throws : ¬ passes → ∀ this rest, ∃ e t, Throws (statusCode this (v :: rest)) s e t

/-- Only one condition decides a check. -/
theorem Judges.iff (h : Judges s v P) : Judges s v Q ↔ (P ↔ Q) := by
  constructor
  · intro h'
    constructor
    · intro passes
      by_contra fails
      obtain ⟨e, t, thrown⟩ := h'.throws fails .undefined []
      exact thrown.not_returns (h.gives passes .undefined [])
    · intro passes
      by_contra fails
      obtain ⟨e, t, thrown⟩ := h.throws fails .undefined []
      exact thrown.not_returns (h'.gives passes .undefined [])
  · intro same
    exact ⟨fun passes => h.gives (same.2 passes), fun fails => h.throws fun passes =>
      fails (same.1 passes)⟩

section Expectation

variable (shown : s.response = some r) (e : StatusExpectation)

include shown

theorem returns_assertStatus (passes : r.hasStatus e = true) :
    Returns (do orThrow ((← response).assertStatus e)) s .undefined s := by
  have verdict : r.assertStatus e = .ok () := if_pos passes
  refine (returns_response shown).bind ?_
  rw [verdict]
  exact returns_orThrow

theorem throws_assertStatus (fails : ¬ r.hasStatus e = true) :
    ∃ v t, Throws (do orThrow ((← response).assertStatus e)) s v t := by
  have verdict : r.assertStatus e = .error _ := if_neg fails
  obtain ⟨v, t, thrown⟩ := throws_orThrow (s := s) _
  refine ⟨v, t, (returns_response shown).bind_throws ?_⟩
  rw [verdict]
  exact thrown

end Expectation

theorem judges_number (shown : s.response = some r) :
    Judges s (.number x) (r.hasStatus (.code (statusNumber x)) = true) := by
  constructor
  · intro passes this rest
    exact returns_wanting (Nat.le_add_left 1 _)
      ((returns_pure _).bind (returns_assertStatus shown _ passes))
  · intro fails this rest
    obtain ⟨v, t, thrown⟩ := throws_assertStatus shown _ fails
    exact ⟨v, t, throws_wanting (Nat.le_add_left 1 _) ((returns_pure _).bind_throws thrown)⟩

theorem judges_text (shown : s.response = some r) (text : String) :
    Judges s (.ofString text) (r.hasStatus (.text text) = true) := by
  constructor
  · intro passes this rest
    exact returns_wanting (Nat.le_add_left 1 _) ((returns_hostText text).bind
      ((returns_pure _).bind (returns_assertStatus shown _ passes)))
  · intro fails this rest
    obtain ⟨v, t, thrown⟩ := throws_assertStatus shown _ fails
    exact ⟨v, t, throws_wanting (Nat.le_add_left 1 _) ((returns_hostText text).bind_throws
      ((returns_pure _).bind_throws thrown))⟩

/-- The code that a number asks for: its fraction is left out, and the nearest of the codes that
there are is taken. -/
theorem hasStatus_number (finite : x.isFinite = true) :
    r.hasStatus (.code (statusNumber x)) = true ↔
      r.statusCode = min ⌊(ofFloat x).value⌋₊ 65535 := by
  unfold statusNumber Response.hasStatus
  rw [beq_iff_eq, toNat_toUInt16 (isFinite_ofFloat finite)]

/-- The text of a number asks for the number itself, unless it is taken for a name of the status. -/
theorem hasStatus_numberText (finite : x.isFinite = true) (range : r.statusCode < 65536)
    (reason : ¬ SameUpToCase r.reason (numberText x)) (line : r.status ≠ numberText x) :
    r.hasStatus (.text (numberText x)) = true ↔ (ofFloat x).value = r.statusCode := by
  have small : Nat.pow 2 16 ≤ 2 ^ 53 := by decide
  have read {n : Nat} := natBelow?_numberText (n := n) (isFinite_ofFloat finite) small
  unfold Response.hasStatus
  dsimp only
  cases text : Text.natBelow? (Nat.pow 2 16) (Text.trim (numberText x)) with
  | some n =>
    have value := (read.1 text).1
    rw [value, beq_iff_eq]
    exact ⟨fun same => by rw [same], fun same => by exact_mod_cast same.symm⟩
  | none =>
    have unnamed : sameName r.reason (numberText x) = false :=
      Bool.eq_false_iff.2 fun same => reason ((sameName_iff _ _).1 same)
    rw [unnamed, beq_eq_false_iff_ne.2 line]
    refine iff_of_false Bool.false_ne_true fun value => ?_
    rw [read.2 ⟨value, range⟩] at text
    cases text

/-- A number passes for the status code that it is cut to, and its text, unless it is a name of the
status, passes for the code that the number is. So the number is judged by its value, as its text
is, exactly when it is not cut to a status code that it is not. -/
theorem statusCode_judges_number_iff (shown : s.response = some r) (range : r.statusCode < 65536)
    (finite : x.isFinite = true) :
    let value := (ofFloat x).value
    let isCut := r.statusCode = min ⌊value⌋₊ 65535
    Judges s (.number x) isCut ∧
      (∃ u, Returns (toUnits (.number x)) s u s ∧
        (¬ SameUpToCase r.reason (numberText x) → r.status ≠ numberText x →
          Judges s (.text u) (value = r.statusCode))) ∧
      (Judges s (.number x) (value = r.statusCode) ↔ (isCut → value = r.statusCode)) := by
  intro value isCut
  have number : Judges s (.number x) isCut :=
    (judges_number shown).iff.2 (hasStatus_number finite)
  have text (reason : ¬ SameUpToCase r.reason (numberText x)) (line : r.status ≠ numberText x) :
      Judges s (.ofString (numberText x)) (value = r.statusCode) :=
    (judges_text shown _).iff.2 (hasStatus_numberText finite range reason line)
  refine ⟨number, ⟨_, returns_pure _, text⟩, ?_⟩
  have cut_of_value (same : value = r.statusCode) : isCut := by
    change r.statusCode = min ⌊value⌋₊ 65535
    rw [same, Nat.floor_natCast]
    omega
  rw [number.iff]
  exact ⟨fun same => same.1, fun only => ⟨only, cut_of_value⟩⟩

/-- A number that is another status code is judged by its value, as its text is. -/
theorem statusCode_judges_number_notFound :
    let s := showResponse { statusCode := 200, status := "200 OK" } beginning.store
    (ofFloat 404).value = 404 ∧
      Judges s (.number 404) ((ofFloat 404).value = (200 : Nat)) ∧
      (¬ SameUpToCase "OK" (numberText 404) ∧ "200 OK" ≠ numberText 404 ∧
        ∃ u, Returns (toUnits (.number 404)) s u s ∧
          Judges s (.text u) ((ofFloat 404).value = (200 : Nat))) ∧
      ∃ e t, Throws (statusCode .undefined [.number 404]) s e t := by
  intro s
  have text : numberText 404 = "404" := by decide +kernel
  have value : (ofFloat 404).value = 404 :=
    (toInt?_eq_some_iff (n := 404)).1 (by decide +kernel) |>.2
  have reason : ¬ SameUpToCase "OK" (numberText 404) := by
    rw [text]
    exact fun same => absurd ((sameName_iff _ _).2 same) (by decide +kernel)
  have line : "200 OK" ≠ numberText 404 := by
    rw [text]
    decide
  have given := response_showResponse { statusCode := 200, status := "200 OK" } beginning.store
  obtain ⟨-, ⟨u, shown, worded⟩, judged⟩ := statusCode_judges_number_iff given (by decide)
    (x := 404) (by decide +kernel)
  have number := judged.2 fun isCut => by
    rw [value] at isCut
    norm_num at isCut
  exact ⟨value, number, ⟨reason, line, u, shown, worded reason line⟩,
    number.throws (by rw [value]; norm_num) _ _⟩

/-- A number with a fraction passes for the status code before it, and its text fails. -/
theorem statusCode_accepts_fraction :
    let s := showResponse { statusCode := 200, status := "200 OK" } beginning.store
    Returns (statusCode .undefined [.number 200.5]) s .undefined s ∧
      (ofFloat 200.5).value ≠ 200 ∧
      ∃ u e t, Returns (toUnits (.number 200.5)) s u s ∧
        Throws (statusCode .undefined [.text u]) s e t := by
  intro s
  have fractional : (ofFloat 200.5).toInt? = none := by decide +kernel
  have finite : (ofFloat 200.5).isFinite = true := by decide +kernel
  have shown := response_showResponse { statusCode := 200, status := "200 OK" } beginning.store
  refine ⟨(judges_number shown).gives (by decide +kernel) _ _, fun value => ?_, ?_⟩
  · have whole := toInt?_eq_some_iff.2 ⟨finite, value.trans (Int.cast_ofNat 200).symm⟩
    rw [fractional] at whole
    cases whole
  · obtain ⟨e, t, thrown⟩ := (judges_text shown (numberText 200.5)).throws
      (by decide +kernel) .undefined []
    exact ⟨_, e, t, returns_pure _, thrown⟩

end CollectionRunner.Script.Host
