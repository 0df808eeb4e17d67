import CollectionRunner.Scope

namespace CollectionRunner.Template

/-- After so many characters of a text, and before its line ends, two closing braces stand. -/
def ClosesAt (s : List Char) (n : Nat) : Prop := ['}', '}'] <+: s.drop n ∧ '\n' ∉ s.take n

instance (s : List Char) (n : Nat) : Decidable (ClosesAt s n) :=
  inferInstanceAs (Decidable (_ ∧ _))

/-- Where the first closing braces of the line stand. -/
def closing? (s : List Char) : Option Nat := (List.range s.length).find? fun n => ClosesAt s n

/-- How long the inner text of a placeholder is with which a text begins. -/
def opening? (s : List Char) : Option Nat :=
  if ['{', '{'] <+: s then closing? (s.drop 2) else none

/-- The value of the key between the braces, or else the placeholder as it stands. -/
def emitted (lookup : String → Option String) (inner placeholder : List Char) : List Char :=
  (lookup (Text.trim (String.ofList inner))).elim placeholder String.toList

/-- The text as a scanner emits it that goes from left to right: past a placeholder at once, and
past anything else character by character. -/
def scan (lookup : String → Option String) : List Char → List Char
  | [] => []
  | c :: rest =>
    match opening? (c :: rest) with
    | some n =>
      emitted lookup ((c :: rest).drop 2 |>.take n) ((c :: rest).take (n + 4)) ++
        scan lookup ((c :: rest).drop (n + 4))
    | none => c :: scan lookup rest
termination_by s => s.length
decreasing_by all_goals simp only [List.length_drop, List.length_cons]; omega

variable {lookup : String → Option String} {s inner after rest : List Char} {c : Char} {n : Nat}

theorem closesAt_zero : ClosesAt s 0 ↔ ['}', '}'] <+: s := by simp [ClosesAt]

theorem closesAt_succ : ClosesAt (c :: s) (n + 1) ↔ c ≠ '\n' ∧ ClosesAt s n := by
  simp only [ClosesAt, List.drop_succ_cons, List.take_succ_cons, List.mem_cons, not_or, ne_comm]
  exact and_left_comm

theorem ClosesAt.lt_length (h : ClosesAt s n) : n < s.length := by
  have hl := h.1.length_le
  simp only [List.length_cons, List.length_nil, List.length_drop] at hl
  omega

theorem closing?_eq_some_iff : closing? s = some n ↔ ClosesAt s n ∧ ∀ m < n, ¬ ClosesAt s m := by
  simp only [closing?, List.find?_range_eq_some, decide_eq_true_eq, List.mem_range,
    Bool.not_eq_true', decide_eq_false_iff_not]
  exact ⟨fun h => ⟨h.1, h.2.2⟩, fun h => ⟨h.1, h.1.lt_length, h.2⟩⟩

theorem closing?_eq_none_iff : closing? s = none ↔ ∀ n, ¬ ClosesAt s n := by
  simp only [closing?, List.find?_eq_none, List.mem_range, decide_eq_true_eq]
  exact ⟨fun h n hn => h n hn.lt_length hn, fun h n _ => h n⟩

/-- Closing braces are looked for from the next character on when none stand at the first. -/
theorem closing?_cons (h : ¬ ['}', '}'] <+: c :: s) (hc : c ≠ '\n') :
    closing? (c :: s) = (closing? s).map (· + 1) := by
  cases hs : closing? s with
  | none =>
    refine closing?_eq_none_iff.2 fun n hn => ?_
    cases n with
    | zero => exact h (closesAt_zero.1 hn)
    | succ n => exact closing?_eq_none_iff.1 hs n (closesAt_succ.1 hn).2
  | some n =>
    obtain ⟨hn, hm⟩ := closing?_eq_some_iff.1 hs
    refine closing?_eq_some_iff.2 ⟨closesAt_succ.2 ⟨hc, hn⟩, fun m hlt hcl => ?_⟩
    cases m with
    | zero => exact h (closesAt_zero.1 hcl)
    | succ m => exact hm m (Nat.lt_of_succ_lt_succ hlt) (closesAt_succ.1 hcl).2

theorem splitClosing?_eq (s : List Char) :
    splitClosing? s = (closing? s).map fun n => (s.take n, s.drop (n + 2)) := by
  fun_induction splitClosing? s with
  | case1 => rfl
  | case2 rest =>
    have h : closing? ('}' :: '}' :: rest) = some 0 :=
      closing?_eq_some_iff.2 ⟨closesAt_zero.2 ⟨rest, rfl⟩, fun m hm => absurd hm m.not_lt_zero⟩
    simp [h]
  | case3 rest =>
    have h : closing? ('\n' :: rest) = none := by
      refine closing?_eq_none_iff.2 fun n hn => ?_
      cases n with
      | zero => simpa using closesAt_zero.1 hn
      | succ n => exact (closesAt_succ.1 hn).1 rfl
    simp [h]
  | case4 c rest hb hc ih =>
    have hp : ¬ ['}', '}'] <+: c :: rest := by
      rintro ⟨t, ht⟩
      simp only [List.cons_append, List.nil_append, List.cons.injEq] at ht
      exact hb t ht.1.symm ht.2.symm
    rw [ih, closing?_cons hp hc]
    cases closing? rest <;> simp

theorem opening?_braces : opening? ('{' :: '{' :: s) = closing? s := if_pos ⟨s, rfl⟩

/-- The leftmost placeholder is the one that opens at the first character, or else the leftmost of
the rest. -/
theorem leftmost?_cons (c : Char) (rest : List Char) :
    leftmost? (c :: rest) = match opening? (c :: rest) with
      | some n =>
        some ⟨[], (c :: rest).drop 2 |>.take n, (c :: rest).drop (n + 4)⟩
      | none => (leftmost? rest).map fun cut => { cut with before := c :: cut.before } := by
  by_cases h : ['{', '{'] <+: c :: rest
  · obtain ⟨t, ht⟩ := h
    simp only [List.cons_append, List.nil_append, List.cons.injEq] at ht
    obtain ⟨rfl, rfl⟩ := ht
    rw [leftmost?, splitClosing?_eq, opening?_braces]
    cases closing? t <;> simp
  · have hn : opening? (c :: rest) = none := if_neg h
    rw [hn, leftmost?]
    rintro t rfl rfl
    exact h ⟨t, rfl⟩

theorem replacement_eq (lookup : String → Option String) (inner : List Char) :
    replacement lookup inner = emitted lookup inner ('{' :: '{' :: inner ++ ['}', '}']) := by
  unfold replacement emitted
  rw [Text.trim, String.toList_ofList]
  cases lookup (String.ofList (Text.trimChars inner)) <;> rfl

/-- A placeholder with which a text begins is its braces and what is between them. -/
theorem take_of_opening? (h : opening? s = some n) :
    s.take (n + 4) = '{' :: '{' :: ((s.drop 2).take n) ++ ['}', '}'] := by
  unfold opening? at h
  split at h
  · rename_i hp
    obtain ⟨t, rfl⟩ := hp
    obtain ⟨u, hu⟩ := (closing?_eq_some_iff.1 h).1.1
    have hd : (t.drop n).take 2 = ['}', '}'] := by
      rw [show t.drop n = _ from hu.symm]
      rfl
    simp only [List.cons_append, List.nil_append, List.take_succ_cons, List.drop_succ_cons,
      List.drop_zero, List.cons.injEq, true_and]
    rw [List.take_add, hd]
  · cases h

theorem fill_of_none (h : leftmost? s = none) : fill lookup s = s := by
  rw [fill]
  split
  · rfl
  · simp_all

theorem fill_of_some {cut : Cut} (h : leftmost? s = some cut) :
    fill lookup s = cut.before ++ replacement lookup cut.inner ++ fill lookup cut.after := by
  rw [fill]
  split <;> simp_all

theorem fill_cons_of_none (h : opening? (c :: rest) = none) :
    fill lookup (c :: rest) = c :: fill lookup rest := by
  have hl := leftmost?_cons c rest
  rw [h] at hl
  cases hr : leftmost? rest with
  | none => rw [fill_of_none hr, fill_of_none (by rw [hl, hr]; rfl)]
  | some cut =>
    rw [hr] at hl
    rw [fill_of_some hr, fill_of_some hl]
    rfl

/-- Filling in placeholder by placeholder is scanning character by character. -/
theorem fill_eq_scan (lookup : String → Option String) (s : List Char) :
    fill lookup s = scan lookup s := by
  fun_induction scan lookup s with
  | case1 => exact fill_of_none rfl
  | case2 c rest n hn ih =>
    have hl := leftmost?_cons c rest
    rw [hn] at hl
    rw [fill_of_some hl, replacement_eq, ← take_of_opening? hn, ← ih]
    rfl
  | case3 c rest hn ih => rw [fill_cons_of_none hn, ih]

theorem hasOpening_iff : hasOpening s = true ↔ ['{', '{'] <:+: s := by
  fun_induction hasOpening s with
  | case1 rest => exact ⟨fun _ => (List.prefix_append ['{', '{'] rest).isInfix, fun _ => rfl⟩
  | case2 c rest h ih =>
    rw [ih, List.infix_cons_iff, or_iff_right]
    rintro ⟨t, ht⟩
    simp only [List.cons_append, List.nil_append, List.cons.injEq] at ht
    exact h t ht.1.symm ht.2.symm
  | case3 => simp

theorem scan_of_no_opening (lookup : String → Option String) (h : ¬ ['{', '{'] <:+: s) :
    scan lookup s = s := by
  induction s with
  | nil => rw [scan]
  | cons c rest ih =>
    rw [List.infix_cons_iff, not_or] at h
    have hn : opening? (c :: rest) = none := if_neg h.1
    rw [scan, hn]
    exact congrArg (c :: ·) (ih h.2)

/-- A placeholder, somewhere in a text, that ends on the line on which it begins. -/
def Cut.Splits (cut : Cut) (s : List Char) : Prop :=
  s = cut.before ++ '{' :: '{' :: cut.inner ++ '}' :: '}' :: cut.after ∧ '\n' ∉ cut.inner

/-- It begins further to the left, or at the same place and then it is not longer. -/
def Cut.Precedes (a b : Cut) : Prop :=
  a.before.length < b.before.length ∨
    a.before.length = b.before.length ∧ a.inner.length ≤ b.inner.length

theorem splits_of_opening? (h : opening? s = some n) :
    Cut.Splits ⟨[], (s.drop 2).take n, s.drop (n + 4)⟩ s := by
  refine ⟨?_, ?_⟩
  · have ht := take_of_opening? h
    calc
      s = s.take (n + 4) ++ s.drop (n + 4) := (List.take_append_drop _ _).symm
      _ = _ := by rw [ht]; simp
  · unfold opening? at h
    split at h
    · exact (closing?_eq_some_iff.1 h).1.2
    · cases h

theorem opening?_of_splits (h : Cut.Splits ⟨[], inner, after⟩ s) :
    ∃ n, opening? s = some n ∧ n ≤ inner.length := by
  obtain ⟨rfl, hl⟩ := h
  have hc : ClosesAt (inner ++ '}' :: '}' :: after) inner.length := by
    refine ⟨?_, ?_⟩
    · rw [List.drop_left]
      exact ⟨after, rfl⟩
    · rwa [List.take_left]
  simp only [List.nil_append, List.cons_append, opening?_braces]
  cases ho : closing? (inner ++ '}' :: '}' :: after) with
  | none => exact absurd hc (closing?_eq_none_iff.1 ho _)
  | some n =>
    refine ⟨n, rfl, Nat.le_of_not_lt fun hlt => ?_⟩
    exact (closing?_eq_some_iff.1 ho).2 _ hlt hc

@[simp] theorem splits_cons {before : List Char} :
    Cut.Splits ⟨c :: before, inner, after⟩ (c :: s) ↔ Cut.Splits ⟨before, inner, after⟩ s := by
  simp [Cut.Splits]

theorem leftmost?_splits {cut : Cut} (h : leftmost? s = some cut) : cut.Splits s := by
  induction s generalizing cut with
  | nil => cases h
  | cons c rest ih =>
    rw [leftmost?_cons] at h
    cases ho : opening? (c :: rest) with
    | some n =>
      rw [ho] at h
      cases h
      exact splits_of_opening? ho
    | none =>
      rw [ho] at h
      obtain ⟨cut, hr, rfl⟩ := Option.map_eq_some_iff.1 h
      exact splits_cons.2 (ih hr)

theorem leftmost?_precedes {other : Cut} (h : other.Splits s) :
    ∃ cut, leftmost? s = some cut ∧ cut.Precedes other := by
  induction s generalizing other with
  | nil => simpa using congrArg List.length h.1
  | cons c rest ih =>
    -- either the other one opens here too, or both are looked for in the rest
    rw [leftmost?_cons]
    obtain ⟨before, inner, after⟩ := other
    cases before with
    | nil =>
      obtain ⟨n, hn, hle⟩ := opening?_of_splits h
      rw [hn]
      exact ⟨_, rfl, .inr ⟨rfl, Nat.le_trans (List.length_take_le _ _) hle⟩⟩
    | cons b before =>
      cases ho : opening? (c :: rest) with
      | some n => exact ⟨_, rfl, .inl (Nat.succ_pos _)⟩
      | none =>
        have hb : c = b := by simpa using congrArg List.head? h.1
        subst hb
        obtain ⟨cut, hr, hp⟩ := ih (splits_cons.1 h)
        rw [hr]
        refine ⟨_, rfl, ?_⟩
        unfold Cut.Precedes at hp ⊢
        simp only [List.length_cons] at hp ⊢
        omega

theorem Cut.Splits.eq {a b : Cut} (ha : a.Splits s) (hb : b.Splits s)
    (hbefore : a.before.length = b.before.length) (hinner : a.inner.length = b.inner.length) :
    a = b := by
  have h := ha.1.symm.trans hb.1
  simp only [List.append_assoc, List.cons_append] at h
  obtain ⟨h₁, h⟩ := List.append_inj h hbefore
  obtain ⟨h₂, h⟩ := List.append_inj (List.cons.inj (List.cons.inj h).2).2 hinner
  have h₃ := (List.cons.inj (List.cons.inj h).2).2
  cases a
  cases b
  simp_all

/-- The placeholder found first is the leftmost one, and of those that begin there the shortest. -/
theorem leftmost?_eq_some_iff {cut : Cut} :
    leftmost? s = some cut ↔ cut.Splits s ∧ ∀ other : Cut, other.Splits s → cut.Precedes other := by
  constructor
  · intro h
    refine ⟨leftmost?_splits h, fun other ho => ?_⟩
    obtain ⟨cut', hs, hp⟩ := leftmost?_precedes ho
    cases h.symm.trans hs
    exact hp
  · rintro ⟨hs, hp⟩
    obtain ⟨cut', hs', hp'⟩ := leftmost?_precedes hs
    have hq := hp cut' (leftmost?_splits hs')
    unfold Cut.Precedes at hp' hq
    rw [hs', (leftmost?_splits hs').eq hs (by omega) (by omega)]

/-- What a scanner tells apart in a text. -/
inductive Piece where
  | literal (c : Char)
  | placeholder (inner : List Char)
  deriving DecidableEq, Repr

namespace Piece

def text : Piece → List Char
  | literal c => [c]
  | placeholder inner => '{' :: '{' :: inner ++ ['}', '}']

def filled (lookup : String → Option String) : Piece → List Char
  | literal c => [c]
  | placeholder inner => emitted lookup inner (placeholder inner).text

end Piece

/-- The pieces of a text, whatever its placeholders stand for. -/
def pieces : List Char → List Piece
  | [] => []
  | c :: rest =>
    match opening? (c :: rest) with
    | some n =>
      .placeholder ((c :: rest).drop 2 |>.take n) :: pieces ((c :: rest).drop (n + 4))
    | none => .literal c :: pieces rest
termination_by s => s.length
decreasing_by all_goals simp only [List.length_drop, List.length_cons]; omega

theorem text_pieces (s : List Char) : (pieces s).flatMap Piece.text = s := by
  fun_induction pieces s with
  | case1 => rfl
  | case2 c rest n hn ih =>
    rw [List.flatMap_cons, ih, Piece.text, ← take_of_opening? hn, List.take_append_drop]
  | case3 c rest _ ih => exact congrArg (c :: ·) ih

theorem scan_eq_pieces (lookup : String → Option String) (s : List Char) :
    scan lookup s = (pieces s).flatMap (Piece.filled lookup) := by
  fun_induction pieces s with
  | case1 => rw [scan, List.flatMap_nil]
  | case2 c rest n hn ih =>
    rw [scan, hn, List.flatMap_cons, ← ih, Piece.filled, Piece.text, ← take_of_opening? hn]
  | case3 c rest hn ih =>
    rw [scan, hn]
    exact congrArg (c :: ·) ih

theorem resolve_eq (lookup : String → Option String) (text : String) :
    resolve lookup text = String.ofList (scan lookup text.toList) := by
  unfold resolve
  split
  · rw [fill_eq_scan]
  · rename_i h
    rw [scan_of_no_opening lookup (fun hi => h (hasOpening_iff.2 hi)), String.ofList_toList]

/-- A text is filled in as a scanner emits it: where a placeholder begins depends on the text alone,
and so what is put in is never scanned, neither for a scope nor for a map nor where the scan is
spared because nothing opens. -/
theorem resolve_eq_scan (lookup : String → Option String) (text : String) :
    (∀ cut, leftmost? text.toList = some cut ↔ cut.Splits text.toList ∧
      ∀ other : Cut, other.Splits text.toList → cut.Precedes other) ∧
    resolve lookup text = String.ofList (scan lookup text.toList) ∧
    (∀ s : Snapshot, s.resolve text = String.ofList (scan s.get? text.toList)) ∧
    (∀ m, resolveMap m text = String.ofList (scan (mapValue? m) text.toList)) ∧
    (¬ ['{', '{'] <:+: text.toList →
      resolve lookup text = text ∧ scan lookup text.toList = text.toList) ∧
    (pieces text.toList).flatMap Piece.text = text.toList ∧
    scan lookup text.toList = (pieces text.toList).flatMap (Piece.filled lookup) := by
  refine ⟨fun _ => leftmost?_eq_some_iff, resolve_eq lookup text, fun s => resolve_eq s.get? text,
    fun m => resolve_eq (mapValue? m) text, fun h => ?_, text_pieces _, scan_eq_pieces _ _⟩
  have hs := scan_of_no_opening lookup h
  exact ⟨by rw [resolve_eq, hs, String.ofList_toList], hs⟩

/-- Single braces open nothing, whatever has a value. -/
theorem scan_single_braces :
    ¬ ['{', '{'] <:+: "\x7b \x7ba\x7d \x7d".toList ∧
      scan (fun _ => some "1") "\x7b \x7ba\x7d \x7d".toList =
        "\x7b \x7ba\x7d \x7d".toList :=
  have h : ¬ ['{', '{'] <:+: "\x7b \x7ba\x7d \x7d".toList := mt hasOpening_iff.2 (by decide)
  ⟨h, ((resolve_eq_scan (fun _ => some "1") "\x7b \x7ba\x7d \x7d").2.2.2.2.1 h).2⟩

example : fill (fun key => if key = "a" then some "1" else none)
    ['{', '{', '{', 'a', '}', '}', '}', '{', '{', ' ', 'a', '}', '}'] =
      ['{', '{', '{', 'a', '}', '}', '}', '1'] := by decide +kernel

end CollectionRunner.Template
