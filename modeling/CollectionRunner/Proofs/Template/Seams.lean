import CollectionRunner.Proofs.Template.Staged
import Mathlib.Data.List.Infix

namespace CollectionRunner

namespace Template

variable {lookup : String → Option String} {s t : List Char} {c : Char} {n : Nat}
  {before after : List Piece}

theorem closesAt_append_line : ClosesAt (s ++ '\n' :: t) n ↔ ClosesAt s n := by
  induction s generalizing n with
  | nil =>
    cases n with
    | zero => simp [closesAt_zero]
    | succ n => exact iff_of_false (fun h => (closesAt_succ.1 h).1 rfl) fun h => nomatch h.lt_length
  | cons c s ih =>
    cases n with
    | zero =>
      rw [closesAt_zero, closesAt_zero]
      cases s <;> simp
    | succ n => rw [List.cons_append, closesAt_succ, closesAt_succ, ih]

/-- Nothing closes beyond the end of the line. -/
theorem closing?_append_line (s t : List Char) : closing? (s ++ '\n' :: t) = closing? s := by
  refine Option.ext fun n => ?_
  simp only [closing?_eq_some_iff, closesAt_append_line]

/-- From any piece on, the pieces of a text are those of what is left of it. -/
theorem pieces_text_of_append (h : pieces s = before ++ after) :
    pieces (after.flatMap Piece.text) = after := by
  induction before generalizing s with
  | nil => rw [← h.trans after.nil_append, text_pieces]
  | cons p before ih =>
    cases s with
    | nil => rw [pieces] at h; cases h
    | cons c rest =>
      rw [pieces] at h
      split at h <;> exact ih (List.cons.inj h).2

theorem opening?_of_literal (h : pieces s = before ++ .literal c :: after) :
    opening? (c :: after.flatMap Piece.text) = none := by
  have hp : pieces (c :: after.flatMap Piece.text) = .literal c :: after := pieces_text_of_append h
  refine Option.eq_none_iff_forall_ne_some.2 fun n ho => ?_
  rw [pieces, ho] at hp
  cases hp

/-- A text keeps its pieces in front of another one if none of its literals begins a placeholder
there. -/
theorem pieces_append_of_literals
    (h : ∀ before c after, pieces s = before ++ .literal c :: after →
      opening? (c :: (after.flatMap Piece.text ++ t)) = none) :
    pieces (s ++ t) = pieces s ++ pieces t := by
  fun_induction pieces s with
  | case1 => rfl
  | case2 c rest n hn ih =>
    have cut : c :: rest ++ t = (c :: rest).take (n + 4) ++ ((c :: rest).drop (n + 4) ++ t) := by
      rw [← List.append_assoc, List.take_append_drop]
    rw [cut, pieces_placeholder_append hn,
      ih fun before d after hp => h (_ :: before) d after (congrArg (_ :: ·) hp)]
    rfl
  | case3 c rest hn ih =>
    have here := h [] c (pieces rest) rfl
    rw [text_pieces] at here
    rw [List.cons_append, pieces_cons_of_none here,
      ih fun before d after hp => h (_ :: before) d after (congrArg (_ :: ·) hp)]
    rfl

/-- A character begins no placeholder in front of more text if it begins none without, and what
might be its inner text closes at the same place. -/
theorem opening?_append (h : opening? (c :: s) = none) (last : s = [] → opening? (c :: t) = none)
    (line : ∀ u, c = '{' → s = '{' :: u → closing? (u ++ t) = closing? u) :
    opening? (c :: (s ++ t)) = none := by
  cases s with
  | nil => exact last rfl
  | cons d u =>
    refine Option.eq_none_iff_forall_ne_some.2 fun n ho => ?_
    obtain ⟨rfl, v, hv, hn⟩ := opening?_cons_eq_some_iff.1 ho
    obtain ⟨rfl, rfl⟩ := List.cons.inj hv
    rw [opening?_braces, ← line u rfl rfl] at h
    exact nomatch h.symm.trans hn

/-- Two opening braces stand outside the placeholders of a text, with no line feed behind them. -/
def LeavesOpen (s : List Char) : Prop :=
  ∃ rest ∈ (pieces s).tails, [.literal '{', .literal '{'] <+: rest ∧
    '\n' ∉ rest.flatMap Piece.text

instance (s : List Char) : Decidable (LeavesOpen s) :=
  inferInstanceAs (Decidable (∃ rest ∈ _, _ ∧ _))

/-- Literal braces that are not left open have a line feed behind them. -/
theorem line_of_not_leavesOpen (h : ¬ LeavesOpen s)
    (hp : pieces s = before ++ .literal '{' :: .literal '{' :: after) :
    '\n' ∈ after.flatMap Piece.text := by
  by_contra hn
  refine h ⟨_, (List.mem_tails _ _).2 ⟨before, hp.symm⟩, ⟨after, rfl⟩, ?_⟩
  simpa [Piece.text] using hn

theorem pieces_append_of_not_leavesOpen (hl : s.getLast? ≠ some '{') (ho : ¬ LeavesOpen s)
    (t : List Char) : pieces (s ++ t) = pieces s ++ pieces t := by
  refine pieces_append_of_literals fun before c after hp => ?_
  have hn := opening?_of_literal hp
  refine opening?_append hn (fun he => ?_) fun u hc hu => ?_
  · -- the last character of the text
    refine Option.eq_none_iff_forall_ne_some.2 fun n hs => hl ?_
    obtain ⟨rfl, -⟩ := opening?_cons_eq_some_iff.1 hs
    rw [← text_pieces s, hp, List.flatMap_append, List.flatMap_cons, he]
    exact List.getLast?_concat
  · -- two literal braces, so that their line ends within the text
    rw [hc, hu, opening?_braces] at hn
    have next : after = .literal '{' :: pieces u := by
      have here : pieces s = (before ++ [.literal c]) ++ after := by simpa using hp
      have rest := pieces_text_of_append here
      rwa [hu, pieces_cons_of_none (opening?_of_closing?_tail hn), eq_comm] at rest
    rw [hc, next] at hp
    have line := line_of_not_leavesOpen ho hp
    rw [text_pieces] at line
    obtain ⟨v, w, rfl⟩ := List.append_of_mem line
    rw [List.append_assoc, List.cons_append, closing?_append_line, closing?_append_line]

theorem pieces_append_line (s t : List Char) :
    pieces (s ++ '\n' :: t) = pieces s ++ .literal '\n' :: pieces t := by
  have feed (t : List Char) : opening? ('\n' :: t) = none := if_neg (by simp)
  rw [← pieces_cons_of_none (feed t)]
  refine pieces_append_of_literals fun before c after hp => ?_
  refine opening?_append (opening?_of_literal hp) (fun _ => ?_) fun u _ _ =>
    closing?_append_line u t
  refine Option.eq_none_iff_forall_ne_some.2 fun n ho => ?_
  obtain ⟨-, u, hu, -⟩ := opening?_cons_eq_some_iff.1 ho
  cases hu

theorem scan_append (h : pieces (s ++ t) = pieces s ++ pieces t) :
    scan lookup (s ++ t) = scan lookup s ++ scan lookup t := by
  rw [scan_eq_pieces, h, List.flatMap_append, ← scan_eq_pieces, ← scan_eq_pieces]

theorem scan_append_line (s t : List Char) :
    scan lookup (s ++ '\n' :: t) = scan lookup s ++ '\n' :: scan lookup t := by
  rw [scan_eq_pieces, pieces_append_line, List.flatMap_append, ← scan_eq_pieces, List.flatMap_cons,
    ← scan_eq_pieces]
  rfl

end Template

namespace Snapshot

open Template

theorem resolve_append_of_pieces (s : Snapshot) {a b : String}
    (h : pieces (a ++ b).toList = pieces a.toList ++ pieces b.toList) :
    s.resolve (a ++ b) = s.resolve a ++ s.resolve b := by
  unfold resolve
  rw [resolve_eq, resolve_eq, resolve_eq, ← String.ofList_append]
  rw [String.toList_append] at h ⊢
  rw [scan_append h]

theorem resolve_append_line (s : Snapshot) (a b : String) :
    s.resolve (a ++ "\n" ++ b) = s.resolve a ++ "\n" ++ s.resolve b := by
  have joined : (a ++ "\n" ++ b).toList = a.toList ++ '\n' :: b.toList := by simp
  unfold resolve
  rw [resolve_eq, resolve_eq, resolve_eq, joined, scan_append_line]
  simp [String.ofList_append, String.append_assoc]

/-- Resolving goes through a seam that no placeholder can cross: one behind a text that does not end
in an opening brace and leaves none open on its last line, or one at a line feed. So the lines of a
text are resolved each by itself. -/
theorem resolve_append (s : Snapshot) :
    (∀ a b : String, a.toList.getLast? ≠ some '{' → ¬ LeavesOpen a.toList →
      s.resolve (a ++ b) = s.resolve a ++ s.resolve b) ∧
    (∀ a b : String, s.resolve (a ++ "\n" ++ b) = s.resolve a ++ "\n" ++ s.resolve b) ∧
    ∀ lines : List String,
      s.resolve (String.intercalate "\n" lines) =
        String.intercalate "\n" (lines.map s.resolve) := by
  refine ⟨fun a b hl ho => s.resolve_append_of_pieces ?_, s.resolve_append_line, fun lines => ?_⟩
  · rw [String.toList_append]
    exact pieces_append_of_not_leavesOpen hl ho b.toList
  · induction lines with
    | nil => rfl
    | cons line lines ih =>
      by_cases hl : lines = []
      · simp [hl]
      · rw [String.intercalate_cons_of_ne_nil hl, s.resolve_append_line, ih, List.map_cons,
          String.intercalate_cons_of_ne_nil (by simpa using hl)]

/-- Neither braces left open on an earlier line nor closing braces at the seam do any harm. -/
theorem resolve_append_bracesAtSeam :
    let s := empty.push "Test" [{ key := "host", value := "api" }, { key := "id", value := "42" }]
    let a := "\x7b\x7bopen\n\x7b\x7bhost\x7d\x7d\x7d"
    let b := "\x7d/\x7b\x7bid\x7d\x7d"
    a.toList.getLast? ≠ some '{' ∧ ¬ LeavesOpen a.toList ∧
      s.resolve (a ++ b) = s.resolve a ++ s.resolve b := by
  intro s a b
  have last : a.toList.getLast? ≠ some '{' := by decide
  have closed : ¬ LeavesOpen a.toList := by decide +kernel
  exact ⟨last, closed, (resolve_append s).1 a b last closed⟩

end Snapshot

end CollectionRunner
