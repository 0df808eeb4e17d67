import CollectionRunner.Assertion
import CollectionRunner.Proofs.Http.Names

namespace CollectionRunner

/-- What a check of a header comes to, apart from how it spells the name. -/
inductive HeaderVerdict where
  | passes
  | missing
  | differs (wanted actual : String)
  deriving DecidableEq, Repr

/-- The verdict that the outcome of a check for a header tells. -/
def headerVerdict? : Except AssertionError Unit → Option HeaderVerdict
  | .ok () => some .passes
  | .error (.missingHeader _) => some .missing
  | .error (.mismatch _ wanted actual) => some (.differs wanted actual)
  | .error _ => none

namespace Response

variable {r : Response} {name : String} {expected : Option String}

/-- The response carries what a check for a header asks for. -/
def Meets (r : Response) (name : String) (expected : Option String) : Prop :=
  (∃ value, r.Carries name value) ∧ ∀ wanted, expected = some wanted → r.Carries name wanted

theorem Meets.append (h : r.Meets name expected) (more : List (String × String)) :
    { r with headers := r.headers ++ more }.Meets name expected := by
  have kept {value : String} : r.Carries name value →
      { r with headers := r.headers ++ more }.Carries name value := by
    rintro ⟨header, mem, same, rfl⟩
    exact ⟨header, List.mem_append_left more mem, same, rfl⟩
  obtain ⟨⟨value, carried⟩, wanted⟩ := h
  exact ⟨⟨value, kept carried⟩, fun w hw => kept (wanted w hw)⟩

theorem assertHeader_missing (h : ∀ value, ¬ r.Carries name value) :
    r.assertHeader name expected = .error (.missingHeader name) := by
  unfold assertHeader
  rw [header?_eq_none_iff.2 h]

theorem assertHeader_meets (h : r.Meets name expected) : r.assertHeader name expected = .ok () := by
  obtain ⟨⟨value, carried⟩, wanted⟩ := h
  unfold assertHeader
  cases found : r.header? name with
  | none => exact absurd carried (header?_eq_none_iff.1 found value)
  | some first =>
    cases expected with
    | none => rfl
    | some w =>
      have listed := List.contains_iff_mem.2 (mem_headerValues.2 (wanted w rfl))
      exact if_pos listed

/-- A header whose values are all wrong is reported with the first of them. -/
theorem assertHeader_differs {value : String} (carried : r.Carries name value)
    (h : ¬ r.Meets name expected) : ∃ wanted first, expected = some wanted ∧
      r.header? name = some first ∧ r.assertHeader name expected =
        .error (.mismatch ("header '" ++ name ++ "'") wanted first) := by
  obtain ⟨wanted, rfl, other⟩ : ∃ wanted, expected = some wanted ∧ ¬ r.Carries name wanted := by
    by_contra all
    push Not at all
    exact h ⟨⟨value, carried⟩, all⟩
  obtain ⟨first, found⟩ : ∃ first, r.header? name = some first := by
    cases found : r.header? name with
    | none => exact absurd carried (header?_eq_none_iff.1 found value)
    | some first => exact ⟨first, rfl⟩
  have unlisted : ¬ (r.headerValues name).contains wanted = true :=
    fun listed => other (mem_headerValues.1 (List.contains_iff_mem.1 listed))
  refine ⟨wanted, first, rfl, found, ?_⟩
  unfold assertHeader
  rw [found]
  exact if_neg unlisted

theorem assertHeader_eq_ok_iff : r.assertHeader name expected = .ok () ↔ r.Meets name expected := by
  refine ⟨fun passes => ?_, assertHeader_meets⟩
  by_contra other
  by_cases there : ∃ value, r.Carries name value
  · obtain ⟨value, carried⟩ := there
    obtain ⟨wanted, first, -, -, differs⟩ := assertHeader_differs carried other
    exact nomatch passes.symm.trans differs
  · exact nomatch passes.symm.trans (assertHeader_missing (not_exists.1 there))

theorem assertHeader_eq_missing_iff : r.assertHeader name expected = .error (.missingHeader name) ↔
    ∀ value, ¬ r.Carries name value := by
  refine ⟨fun failed value carried => ?_, assertHeader_missing⟩
  by_cases meets : r.Meets name expected
  · exact nomatch failed.symm.trans (assertHeader_meets meets)
  · obtain ⟨wanted, first, -, -, differs⟩ := assertHeader_differs carried meets
    exact nomatch failed.symm.trans differs

theorem headerVerdict?_congr {other : String} (same : SameUpToCase name other) :
    headerVerdict? (r.assertHeader other expected) =
      headerVerdict? (r.assertHeader name expected) := by
  have first : r.header? other = r.header? name := (firstHeader?_congr same).symm
  unfold assertHeader
  rw [first, r.headerValues_congr same]
  cases r.header? name with
  | none => rfl
  | some first =>
    cases expected with
    | none => rfl
    | some wanted =>
      dsimp only
      split <;> rfl

/-- A check tells whether the header is there and has the value, in whatever case the name is
spelled and whatever headers are added. -/
structure HeaderJudged (r : Response) (name : String) (expected : Option String) : Prop where
  missing_iff : r.assertHeader name expected = .error (.missingHeader name) ↔
    ∀ value, ¬ r.Carries name value
  passes_iff : r.assertHeader name expected = .ok () ↔ r.Meets name expected
  differs (there : ∃ value, r.Carries name value) (other : ¬ r.Meets name expected) :
    ∃ wanted first, expected = some wanted ∧ r.header? name = some first ∧
      r.assertHeader name expected =
        .error (.mismatch ("header '" ++ name ++ "'") wanted first)
  first : r.header? name = (r.headerValues name).head?
  anyCase {other : String} (same : SameUpToCase name other) :
    r.header? other = r.header? name ∧ r.headerValues other = r.headerValues name ∧
      headerVerdict? (r.assertHeader other expected) =
        headerVerdict? (r.assertHeader name expected)
  more (headers : List (String × String)) (passes : r.assertHeader name expected = .ok ()) :
    { r with headers := r.headers ++ headers }.assertHeader name expected = .ok ()

theorem assertHeader_judged (r : Response) (name : String) (expected : Option String) :
    r.HeaderJudged name expected where
  missing_iff := assertHeader_eq_missing_iff
  passes_iff := assertHeader_eq_ok_iff
  differs := fun ⟨_, carried⟩ other => assertHeader_differs carried other
  first := r.header?_eq_head? name
  anyCase same :=
    ⟨(firstHeader?_congr same).symm, (r.headerValues_congr same).symm, headerVerdict?_congr same⟩
  more headers passes := by
    have meets := assertHeader_eq_ok_iff.1 passes
    exact assertHeader_eq_ok_iff.2 (meets.append headers)

/-- The wanted value need not be the first one, but the first one is what a wrong check tells. -/
example :
    let r : Response := { headers := [("Vary", "Accept"), ("Vary", "Origin")] }
    r.assertHeader "Vary" (some "Origin") = .ok () ∧
      r.assertHeader "Vary" (some "Cookie") =
        .error (.mismatch "header 'Vary'" "Cookie" "Accept") := by
  decide +kernel

end Response

end CollectionRunner
