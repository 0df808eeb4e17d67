import CollectionRunner.Proofs.Scope.Snapshot
import CollectionRunner.Proofs.Template.Scanner

namespace CollectionRunner.Template

variable {lookup : String → Option String} {s t : List Char} {c : Char} {n : Nat}

theorem closing?_cons_eq_none_iff :
    closing? (c :: s) = none ↔ ¬ ['}', '}'] <+: c :: s ∧ (c ≠ '\n' → closing? s = none) := by
  simp only [closing?_eq_none_iff]
  constructor
  · intro h
    exact ⟨fun hp => h 0 (closesAt_zero.2 hp), fun hc n hn => h (n + 1) (closesAt_succ.2 ⟨hc, hn⟩)⟩
  · rintro ⟨hp, hs⟩ n hn
    cases n with
    | zero => exact hp (closesAt_zero.1 hn)
    | succ n => exact hs (closesAt_succ.1 hn).1 n (closesAt_succ.1 hn).2

theorem opening?_cons_eq_some_iff :
    opening? (c :: s) = some n ↔ c = '{' ∧ ∃ t, s = '{' :: t ∧ closing? t = some n := by
  constructor
  · intro h
    unfold opening? at h
    split at h
    · rename_i hp
      obtain ⟨t, ht⟩ := hp
      simp only [List.cons_append, List.nil_append, List.cons.injEq] at ht
      obtain ⟨rfl, rfl⟩ := ht
      exact ⟨rfl, t, rfl, h⟩
    · cases h
  · rintro ⟨rfl, t, rfl, h⟩
    exact opening?_braces.trans h

/-- A placeholder is closed on its line, also seen from its second brace. -/
theorem closing?_of_opening? (h : opening? (c :: s) = some n) : closing? s = some (n + 1) := by
  obtain ⟨-, t, rfl, ht⟩ := opening?_cons_eq_some_iff.1 h
  rw [closing?_cons (by simp) (by decide), ht]
  rfl

theorem scan_cons_of_none (h : opening? (c :: s) = none) :
    scan lookup (c :: s) = c :: scan lookup s := by rw [scan, h]

/-- Where no braces close, nothing is filled in. -/
theorem opening?_of_closing?_tail (h : closing? s = none) : opening? (c :: s) = none := by
  cases ho : opening? (c :: s) with
  | none => rfl
  | some n => cases h.symm.trans (closing?_of_opening? ho)

theorem opening?_of_closing? (h : closing? (c :: s) = none) : opening? (c :: s) = none := by
  cases ho : opening? (c :: s) with
  | none => rfl
  | some n =>
    have hc : c ≠ '\n' := by
      rw [(opening?_cons_eq_some_iff.1 ho).1]
      decide
    rw [← ho, opening?_of_closing?_tail ((closing?_cons_eq_none_iff.1 h).2 hc)]

/-- Filling in closes nothing on a line on which nothing closes. -/
theorem closing?_scan (lookup : String → Option String) (h : closing? s = none) :
    closing? (scan lookup s) = none := by
  induction s with
  | nil => rwa [scan]
  | cons c rest ih =>
    obtain ⟨hp, hr⟩ := closing?_cons_eq_none_iff.1 h
    rw [scan_cons_of_none (opening?_of_closing? h)]
    refine closing?_cons_eq_none_iff.2 ⟨fun hp' => hp ?_, fun hc => ih (hr hc)⟩
    -- the character after this one is the same one as before
    obtain rfl : c = '}' := by
      obtain ⟨t, ht⟩ := hp'
      exact (List.cons.inj ht).1.symm
    cases rest with
    | nil => simp [scan] at hp'
    | cons d rest =>
      rw [scan_cons_of_none (opening?_of_closing? (hr (by decide)))] at hp'
      simpa using hp'

/-- Filling in what stands behind a character makes no placeholder begin there. -/
theorem opening?_scan (lookup : String → Option String) (h : opening? (c :: s) = none) :
    opening? (c :: scan lookup s) = none := by
  cases ho : opening? (c :: scan lookup s) with
  | none => rfl
  | some n =>
    obtain ⟨rfl, t, ht, hn⟩ := opening?_cons_eq_some_iff.1 ho
    cases s with
    | nil => simp [scan] at ht
    | cons d rest =>
      -- a second brace can only come from a text in which the braces after it close nothing
      have hd : opening? (d :: rest) = none := by
        cases hd : opening? (d :: rest) with
        | none => rfl
        | some m =>
          obtain ⟨rfl, -⟩ := opening?_cons_eq_some_iff.1 hd
          rw [opening?_braces, closing?_of_opening? hd] at h
          cases h
      rw [scan_cons_of_none hd] at ht
      obtain ⟨rfl, rfl⟩ := List.cons.inj ht
      rw [opening?_braces] at h
      exact hn.symm.trans (closing?_scan lookup h)

namespace Piece

/-- What a piece is once it is filled in: the characters of its value, or itself. -/
def refined (lookup : String → Option String) : Piece → List Piece
  | literal c => [literal c]
  | placeholder inner =>
    (lookup (Text.trim (String.ofList inner))).elim [placeholder inner] (·.toList.map literal)

theorem filled_refined (first later : String → Option String) (p : Piece) :
    (p.refined first).flatMap (filled later) =
      p.filled fun key => (first key).or (later key) := by
  cases p with
  | literal c => rfl
  | placeholder inner =>
    simp only [refined, filled, emitted]
    cases first (Text.trim (String.ofList inner)) with
    | none => simp [filled, emitted]
    | some value => simp [filled, List.flatMap_map]

end Piece

theorem pieces_cons_of_none (h : opening? (c :: s) = none) :
    pieces (c :: s) = .literal c :: pieces s := by rw [pieces, h]

theorem pieces_append (h : '{' ∉ s) (t : List Char) :
    pieces (s ++ t) = s.map .literal ++ pieces t := by
  induction s with
  | nil => rfl
  | cons c s ih =>
    simp only [List.mem_cons, not_or] at h
    have hn : opening? (c :: (s ++ t)) = none := by
      cases ho : opening? (c :: (s ++ t)) with
      | none => rfl
      | some n => exact absurd (opening?_cons_eq_some_iff.1 ho).1.symm h.1
    rw [List.cons_append, pieces_cons_of_none hn, ih h.2]
    rfl

theorem closesAt_iff_take :
    ClosesAt s n ↔ (s.take (n + 2)).drop n = ['}', '}'] ∧ '\n' ∉ (s.take (n + 2)).take n := by
  unfold ClosesAt
  rw [List.prefix_iff_eq_take, List.drop_take, List.take_take,
    Nat.min_eq_left (Nat.le_add_right n 2), Nat.add_sub_cancel_left, eq_comm]
  rfl

/-- The first closing braces are found without a look at what stands behind them. -/
theorem closing?_congr (h : closing? s = some n) (ht : s.take (n + 2) = t.take (n + 2)) :
    closing? t = some n := by
  have iff {m : Nat} (hm : m ≤ n) : ClosesAt t m ↔ ClosesAt s m := by
    have := congrArg (List.take (m + 2)) ht
    rw [List.take_take, List.take_take, Nat.min_eq_left (by omega)] at this
    rw [closesAt_iff_take, closesAt_iff_take, this]
  obtain ⟨hn, hm⟩ := closing?_eq_some_iff.1 h
  exact closing?_eq_some_iff.2
    ⟨(iff Nat.le.refl).2 hn, fun m hlt hc => hm m hlt ((iff (Nat.le_of_lt hlt)).1 hc)⟩

theorem pieces_placeholder_append (h : opening? s = some n) (t : List Char) :
    pieces (s.take (n + 4) ++ t) = .placeholder ((s.drop 2).take n) :: pieces t := by
  cases s with
  | nil => cases h
  | cons c s =>
    obtain ⟨rfl, u, rfl, hu⟩ := opening?_cons_eq_some_iff.1 h
    have hl : n + 2 ≤ u.length := by
      have := (closing?_eq_some_iff.1 hu).1.1.length_le
      simp only [List.length_cons, List.length_nil, List.length_drop] at this
      omega
    have ht : (u.take (n + 2) ++ t).take (n + 2) = u.take (n + 2) :=
      List.take_left' (List.length_take_of_le hl)
    have ho : opening? ('{' :: '{' :: (u.take (n + 2) ++ t)) = some n :=
      opening?_braces.trans (closing?_congr hu ht.symm)
    have hn : (u.take (n + 2) ++ t).take n = u.take n := by
      have := congrArg (List.take n) ht
      rwa [List.take_take, List.take_take, Nat.min_eq_left (Nat.le_add_right n 2)] at this
    simp only [List.take_succ_cons, List.cons_append, List.drop_succ_cons, List.drop_zero]
    rw [pieces, ho]
    simp only [List.drop_succ_cons, List.drop_zero]
    rw [hn, List.drop_left' (List.length_take_of_le hl)]

/-- A text that is filled in holds the pieces that it held before, each filled in by itself. -/
theorem pieces_scan (plain : ∀ key value, lookup key = some value → '{' ∉ value.toList)
    (s : List Char) : pieces (scan lookup s) = (pieces s).flatMap (Piece.refined lookup) := by
  fun_induction pieces s with
  | case1 => rw [scan, pieces, List.flatMap_nil]
  | case2 c rest n hn ih =>
    rw [scan, hn, List.flatMap_cons, ← ih]
    simp only [emitted, Piece.refined]
    cases hl : lookup (Text.trim (String.ofList (((c :: rest).drop 2).take n))) with
    | none => exact pieces_placeholder_append hn _
    | some value => exact pieces_append (plain _ value hl) _
  | case3 c rest hn ih =>
    rw [scan_cons_of_none hn, pieces_cons_of_none (opening?_scan lookup hn), ih]
    rfl

/-- Filling in by two stages is filling in once with what either of them has. -/
theorem scan_scan {first : String → Option String}
    (plain : ∀ key value, first key = some value → '{' ∉ value.toList)
    (later : String → Option String) (s : List Char) :
    scan later (scan first s) = scan (fun key => (first key).or (later key)) s := by
  rw [scan_eq_pieces later, pieces_scan plain, List.flatMap_assoc, scan_eq_pieces]
  simp only [Piece.filled_refined]

end CollectionRunner.Template

namespace CollectionRunner.Snapshot

/-- The entries of a snapshot as the variables of one scope. -/
def asScope (s : Snapshot) : List Variable :=
  s.entries.map fun v => { key := v.key, value := v.value }

theorem get?_push_asScope {first : Snapshot} (h : first.Sound) (later : Snapshot)
    (source key : String) :
    (first.push source later.asScope).get? key = (first.get? key).or (later.get? key) := by
  have binding : binding? source later.asScope key =
      (later.find? key).map fun v => ⟨v.key, v.value, source⟩ := by
    unfold binding? asScope find?
    rw [List.find?_map, Option.map_map]
    rfl
  unfold get?
  rw [find?_push h, binding, Option.map_or, Option.map_map]
  rfl

/-- Resolving a text with one snapshot and then with another is resolving it once, with the entries
of the second below those of the first; and so resolving it twice with one changes nothing more.
Closing braces in values do no harm. -/
theorem resolve_resolve {first : Snapshot} (h : first.Sound)
    (plain : ∀ key value, first.get? key = some value → '{' ∉ value.toList) (text : String) :
    (∀ (later : Snapshot) (source : String), later.resolve (first.resolve text) =
      (first.push source later.asScope).resolve text) ∧
    first.resolve (first.resolve text) = first.resolve text := by
  have staged (later : Snapshot) : later.resolve (first.resolve text) =
      Template.resolve (fun key => (first.get? key).or (later.get? key)) text := by
    unfold resolve
    rw [Template.resolve_eq, Template.resolve_eq, Template.resolve_eq, String.toList_ofList,
      Template.scan_scan plain]
  constructor
  · intro later source
    rw [staged]
    exact congrArg (Template.resolve · text) (funext (get?_push_asScope h later source)).symm
  · rw [staged]
    simp only [Option.or_self]
    rfl

/-- An environment's value is put in first, and the configuration's later. -/
theorem resolve_resolve_hostThenPath :
    let first := empty.push "Environment" [{ key := "host", value := "api\x7d\x7d" }]
    let later := empty.push "Config" [{ key := "path", value := "users" }]
    let text := "\x7b\x7bhost\x7d\x7d/\x7b\x7b path \x7d\x7d"
    first.Sound ∧ (∀ key value, first.get? key = some value → '{' ∉ value.toList) ∧
      later.resolve (first.resolve text) = (first.push "Later" later.asScope).resolve text ∧
      first.resolve (first.resolve text) = first.resolve text := by
  intro first later text
  have sound : first.Sound := sound_empty.push _ _
  have plain : ∀ key value, first.get? key = some value → '{' ∉ value.toList := by
    intro key value h
    obtain ⟨v, hv, rfl⟩ := Option.map_eq_some_iff.1 h
    have hm : v ∈ [(⟨"host", "api\x7d\x7d", "Environment"⟩ : ScopedVariable)] :=
      List.mem_of_find?_eq_some hv
    rw [List.mem_singleton.1 hm]
    decide
  exact ⟨sound, plain, (resolve_resolve sound plain text).1 later "Later",
    (resolve_resolve sound plain text).2⟩

end CollectionRunner.Snapshot
