import CollectionRunner.Proofs.Decimal.Shown
import CollectionRunner.Proofs.Json.Matching

namespace CollectionRunner.Json

/-- A value with a place left open in it. -/
inductive Context where
  | hole
  | item (before : List Value) (inner : Context) (after : List Value)
  | member (before : List (String × Value)) (key : String) (inner : Context)
    (after : List (String × Value))

/-- The value with the open place filled. -/
def Context.fill : Context → Value → Value
  | hole, v => v
  | item before inner after, v => .array (before ++ inner.fill v :: after)
  | member before key inner after, v => .object (before ++ (key, inner.fill v) :: after)

theorem similar_self {v : Value} (h : v.Sound) : v.similar v = true :=
  similar_of_matches (.refl h)

theorem similarItems_insert {before after : List Value} {l r : Value}
    (hb : ∀ v ∈ before, v.Sound) (ha : ∀ v ∈ after, v.Sound) :
    similarItems (before ++ l :: after) (before ++ r :: after) = l.similar r := by
  induction before with
  | nil =>
    have rest : similarItems after after = true := by
      have := similar_self (.array ha)
      rwa [Value.similar] at this
    rw [List.nil_append, List.nil_append, similarItems, rest, Bool.and_true]
  | cons v before ih =>
    obtain ⟨hv, hb⟩ := List.forall_mem_cons.1 hb
    rw [List.cons_append, List.cons_append, similarItems, similar_self hv, ih hb, Bool.true_and]

theorem eq_of_mem {fields : List (String × Value)} (distinct : (fields.map (·.1)).Nodup)
    {key : String} {v w : Value} (hv : (key, v) ∈ fields) (hw : (key, w) ∈ fields) : v = w :=
  Option.some.inj ((field?_of_mem distinct hv).symm.trans (field?_of_mem distinct hw))

theorem similar_insert {before after : List (String × Value)} {key : String} {l r : Value}
    (sound : (Value.object (before ++ (key, l) :: after)).Sound) :
    (Value.object (before ++ (key, l) :: after)).similar
      (.object (before ++ (key, r) :: after)) = l.similar r := by
  obtain ⟨hl, members⟩ := Value.sound_object.1 sound
  have keys (v : Value) : (before ++ (key, v) :: after).map (·.1) =
      before.map (·.1) ++ key :: after.map (·.1) := by simp
  have hr : ((before ++ (key, r) :: after).map (·.1)).Nodup := by
    rw [keys] at hl ⊢
    exact hl
  rw [Bool.eq_iff_iff, similar_object hl hr, keys, keys]
  constructor
  · rintro ⟨-, alike⟩
    exact alike key l r (by simp) (by simp)
  · intro h
    refine ⟨fun _ => Iff.rfl, fun k v w hv hw => ?_⟩
    by_cases same : k = key
    · subst same
      rwa [eq_of_mem hl hv (by simp : (k, l) ∈ _), eq_of_mem hr hw (by simp : (k, r) ∈ _)]
    · have kept : (k, v) ∈ before ++ (key, r) :: after := by simpa [same] using hv
      rw [eq_of_mem hr hw kept]
      exact similar_self (members (k, v) hv)

/-- Only what fills the open place decides whether two such documents match. -/
theorem similar_fill (c : Context) {v w : Value} (sound : (c.fill v).Sound) :
    (c.fill v).similar (c.fill w) = v.similar w := by
  induction c with
  | hole => rfl
  | item before inner after ih =>
    have members := Value.sound_array.1 sound
    rw [Context.fill, Context.fill, Value.similar, similarItems_insert, ih]
    · exact members _ (by simp)
    · exact fun u hu => members u (by simp [hu])
    · exact fun u hu => members u (by simp [hu])
  | member before key inner after ih =>
    rw [Context.fill] at sound
    rw [Context.fill, Context.fill, similar_insert sound, ih]
    exact (Value.sound_object.1 sound).2 (key, inner.fill v) (by simp)

namespace Number

/-- The number has the whole number as its exact value. -/
def IsWhole : Number → Int → Prop
  | integer i, n => i = n
  | double d, n => d.isFinite = true ∧ d.value = n

/-- The whole number that a number of the given whole value is written as. -/
def shown : Number → Int → Int
  | integer i, _ => i
  | double d, n => d.shown n

theorem naturalText_of_isWhole {x : Number} {n : Int} (h : x.IsWhole n) :
    x.naturalText = toString (x.shown n) := by
  cases x with
  | integer i => rfl
  | double d => exact Decimal.Binary64.naturalText_double (Decimal.Binary64.toInt?_eq_some_iff.2 h)

/-- A whole double is written as another number than its value, and the integer is one of these
two numbers. -/
def Meets (d : Decimal.Binary64) (i : Int) : Prop :=
  ∃ n, d.toInt? = some n ∧ d.shown n ≠ n ∧ (i = n ∨ i = d.shown n)

/-- One of the numbers is a double that is not written as its value, and the other one an integer
that is affected by this. -/
def Blurred : Number → Number → Prop
  | integer i, double d => Meets d i
  | double d, integer i => Meets d i
  | _, _ => False

theorem meets_iff {d : Decimal.Binary64} {i n : Int} (h : d.toInt? = some n) :
    Meets d i ↔ ¬ (i = d.shown n ↔ i = n) := by
  have unfolded : Meets d i ↔ d.shown n ≠ n ∧ (i = n ∨ i = d.shown n) := by
    simp [Meets, h]
  rw [unfolded]
  omega

theorem le_of_meets {d : Decimal.Binary64} {i n : Int} (h : d.toInt? = some n) (meets : Meets d i) :
    2 ^ 54 ≤ n.natAbs := by
  by_contra small
  rw [meets_iff h, Decimal.Binary64.shown_eq_of_lt h (not_le.1 small)] at meets
  exact meets Iff.rfl

end Number

section

variable {x y : Number} {a b : Int}

theorem similar_number (hx : x.IsWhole a) (hy : y.IsWhole b) :
    (Value.number x).similar (.number y) = true ↔ x.shown a = y.shown b := by
  have texts : (Value.number x).similar (.number y) = true ↔ x.naturalText = y.naturalText :=
    (similar_scalar rfl).trans (and_iff_right rfl)
  rw [texts, Number.naturalText_of_isWhole hx, Number.naturalText_of_isWhole hy,
    Text.toString_int_inj]

/-- Two numbers are written alike just when they are the same, unless they are blurred. -/
theorem shown_faithful_iff (hx : x.IsWhole a) (hy : y.IsWhole b) :
    (x.shown a = y.shown b ↔ a = b) ↔ ¬ x.Blurred y := by
  cases x with
  | integer i =>
    obtain rfl : i = a := hx
    cases y with
    | integer j =>
      obtain rfl : j = b := hy
      exact iff_of_true Iff.rfl id
    | double d =>
      have value := Decimal.Binary64.toInt?_eq_some_iff.2 hy
      exact (not_iff_comm.1 (Number.meets_iff value).symm).symm
  | double d =>
    have value := Decimal.Binary64.toInt?_eq_some_iff.2 hx
    cases y with
    | integer j =>
      obtain rfl : j = b := hy
      rw [eq_comm, eq_comm (a := a)]
      exact (not_iff_comm.1 (Number.meets_iff value).symm).symm
    | double e =>
      have value' := Decimal.Binary64.toInt?_eq_some_iff.2 hy
      exact iff_of_true (Decimal.Binary64.shown_eq_shown_iff value value') id

/-- Whole numbers match just when they are the same, at the same place in any document, exactly
when they are not an integer and a double that is not written as its value; such a double is large. -/
theorem similar_whole_iff (hx : x.IsWhole a) (hy : y.IsWhole b) :
    ((∀ c : Context, (c.fill (.number x)).Sound →
        ((c.fill (.number x)).similar (c.fill (.number y)) = true ↔ a = b)) ↔ ¬ x.Blurred y) ∧
      (x.Blurred y → 2 ^ 54 ≤ a.natAbs ∨ 2 ^ 54 ≤ b.natAbs) := by
  rw [←shown_faithful_iff hx hy]
  refine ⟨⟨fun h => ?_, fun h c sound => ?_⟩, fun blurred => ?_⟩
  · rw [←similar_number hx hy]
    exact h .hole (Value.sound_number x)
  · rw [similar_fill c sound, similar_number hx hy, h]
  · cases x with
    | integer i =>
      cases y with
      | integer j => exact blurred.elim
      | double d =>
        exact .inr (Number.le_of_meets (Decimal.Binary64.toInt?_eq_some_iff.2 hy) blurred)
    | double d =>
      cases y with
      | integer j =>
        exact .inl (Number.le_of_meets (Decimal.Binary64.toInt?_eq_some_iff.2 hx) blurred)
      | double e => exact blurred.elim

end

/-- The integer 30 and the double 30 match wherever they stand. -/
theorem similar_whole_iff_thirty :
    let integer := Number.integer 30
    let double := Number.double ⟨0x403E000000000000⟩
    integer.IsWhole 30 ∧ double.IsWhole 30 ∧ ∀ c : Context, (c.fill (.number integer)).Sound →
      (c.fill (.number integer)).similar (c.fill (.number double)) = true := by
  intro integer double
  have whole : double.IsWhole 30 := Decimal.Binary64.toInt?_eq_some_iff.1 (by decide +kernel)
  have thirty : integer.IsWhole 30 := rfl
  obtain ⟨exact_iff, large⟩ := similar_whole_iff thirty whole
  have sharp : ¬ integer.Blurred double := fun blurred => absurd (large blurred) (by decide)
  exact ⟨thirty, whole, fun c sound => (exact_iff.2 sharp c sound).2 rfl⟩

/-- The double 18014398509481992 is written with a zero in place of its last digit, so that it does
not match the integer of its value, and matches another one. -/
theorem similar_whole_blurred :
    let double := Number.double ⟨0x4350000000000002⟩
    double.IsWhole 18014398509481992 ∧
    (Value.number double).similar (.number (.integer 18014398509481992)) = false ∧
    (Value.number double).similar (.number (.integer 18014398509481990)) = true := by
  intro double
  exact ⟨Decimal.Binary64.toInt?_eq_some_iff.1 (by decide +kernel), by decide +kernel,
    by decide +kernel⟩

end CollectionRunner.Json
