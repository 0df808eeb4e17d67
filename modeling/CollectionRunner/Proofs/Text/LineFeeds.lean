import CollectionRunner.Text.Lines
import Mathlib.Data.List.Basic

namespace CollectionRunner.Text

variable {c : Char} {line s r : List Char}

/-- The characters with a line feed alone where a carriage return and a line feed stand. -/
def bareFeeds : List Char → List Char
  | '\r' :: '\n' :: r => '\n' :: bareFeeds r
  | c :: r => c :: bareFeeds r
  | [] => []

/-- The characters without a line feed at their end, if there is one. -/
def withoutLastFeed (s : List Char) : List Char :=
  if s.getLast? = some '\n' then s.dropLast else s

theorem bareFeeds_cons (h : c = '\r' → s.head? ≠ some '\n') :
    bareFeeds (c :: s) = c :: bareFeeds s := by
  rw [bareFeeds]
  rintro r rfl rfl
  exact h rfl rfl

theorem bareFeeds_ne_nil (h : s ≠ []) : bareFeeds s ≠ [] := by
  fun_cases bareFeeds s with
  | case1 => exact List.cons_ne_nil _ _
  | case2 => exact List.cons_ne_nil _ _
  | case3 => exact absurd rfl h

/-- Before the first line feed nothing is changed but a carriage return right before it. -/
theorem bareFeeds_append (h : '\n' ∉ s) (hr : r.head? ≠ some '\n') :
    bareFeeds (s ++ r) = s ++ bareFeeds r := by
  induction s with
  | nil => rfl
  | cons c s ih =>
    have hs := List.not_mem_of_not_mem_cons h
    have next : (s ++ r).head? ≠ some '\n' := by
      cases s with
      | nil => exact hr
      | cons d s => simpa using (List.ne_of_not_mem_cons hs).symm
    rw [List.cons_append, bareFeeds_cons fun _ => next, ih hs, List.cons_append]

theorem bareFeeds_of_notMem (h : '\n' ∉ s) : bareFeeds s = s := by
  have whole := bareFeeds_append (r := []) h (by simp)
  rwa [bareFeeds, List.append_nil] at whole

/-- At a line feed one line ends and the characters after it are on their own. -/
theorem bareFeeds_line (h : '\n' ∉ line) :
    bareFeeds (line.reverse ++ '\n' :: r) = endedLine line ++ '\n' :: bareFeeds r := by
  have feed : bareFeeds ('\n' :: r) = '\n' :: bareFeeds r :=
    bareFeeds_cons fun h => absurd h (by decide)
  cases line with
  | nil => exact feed
  | cons c line =>
    have hc : c ≠ '\n' := (List.ne_of_not_mem_cons h).symm
    have before : '\n' ∉ line.reverse := by simpa using List.not_mem_of_not_mem_cons h
    rw [List.reverse_cons, List.append_assoc, List.singleton_append,
      bareFeeds_append before (by simpa using hc)]
    by_cases ret : c = '\r'
    · rw [ret, bareFeeds, endedLine]
    · rw [bareFeeds_cons fun h => absurd h ret, feed, endedLine, List.reverse_cons,
        List.append_assoc, List.singleton_append]
      rintro t ⟨rfl, rfl⟩
      exact ret rfl

theorem withoutLastFeed_of_notMem (h : '\n' ∉ s) : withoutLastFeed s = s :=
  if_neg fun last => h (List.mem_of_getLast? last)

theorem withoutLastFeed_append (line : List Char) (h : s ≠ []) :
    withoutLastFeed (line ++ s) = line ++ withoutLastFeed s := by
  unfold withoutLastFeed
  rw [List.getLast?_append_of_ne_nil _ h, List.dropLast_append_of_ne_nil h]
  split <;> rfl

theorem linesFrom_ne_nil (h : line ≠ [] ∨ s ≠ []) : linesFrom line s ≠ [] := by
  fun_induction linesFrom line s with
  | case1 line none => exact absurd (List.isEmpty_iff.1 none) (h.resolve_right (· rfl))
  | case2 => exact List.cons_ne_nil _ _
  | case3 => exact List.cons_ne_nil _ _
  | case4 line c r _ ih => exact ih (.inl (List.cons_ne_nil c line))

/-- With `line` already read, in reverse, the lines of the whole make it again but for carriage
returns before line feeds and the last line feed. -/
theorem intercalate_linesFrom (h : '\n' ∉ line) :
    List.intercalate ['\n'] (linesFrom line s) =
      withoutLastFeed (bareFeeds (line.reverse ++ s)) := by
  fun_induction linesFrom line s with
  | case1 line none =>
    rw [List.isEmpty_iff.1 none]
    rfl
  | case2 line =>
    have one : '\n' ∉ line.reverse := by simpa using h
    rw [List.append_nil, bareFeeds_of_notMem one, withoutLastFeed_of_notMem one,
      List.intercalate_singleton]
  | case3 line r ih =>
    have rest := ih List.not_mem_nil
    rw [List.reverse_nil, List.nil_append] at rest
    rw [bareFeeds_line h, withoutLastFeed_append _ (List.cons_ne_nil _ _)]
    -- only the line feed that ends the text is not between two lines
    by_cases last : r = []
    · subst last
      exact List.intercalate_singleton.trans (List.append_nil _).symm
    · rw [List.intercalate_cons_of_ne_nil (linesFrom_ne_nil (.inr last)), rest,
        List.append_assoc]
      exact congrArg (endedLine line ++ ·)
        (withoutLastFeed_append ['\n'] (bareFeeds_ne_nil last)).symm
  | case4 line c r hc ih =>
    have next : '\n' ∉ c :: line := List.not_mem_cons_of_ne_of_not_mem (fun e => hc e.symm) h
    rw [ih next, List.reverse_cons, List.append_assoc, List.singleton_append]

/-- The text with a line feed alone wherever a carriage return stands before one, and without the
line feed at its end. -/
def plainFeeds (s : String) : String := String.ofList (withoutLastFeed (bareFeeds s.toList))

theorem intercalate_lines_feed (s : String) :
    String.intercalate "\n" (lines s) = plainFeeds s := by
  have made : List.intercalate ['\n'] (linesFrom [] s.toList) =
      withoutLastFeed (bareFeeds s.toList) := intercalate_linesFrom List.not_mem_nil
  have read : (lines s).map String.toList = linesFrom [] s.toList := by
    simp [lines, Function.comp_def]
  rw [← String.toList_inj, String.toList_intercalate, read]
  exact made.trans String.toList_ofList.symm

example : plainFeeds "a\r\r\n\r\nb\n\n" = "a\r\n\nb\n" := by decide +kernel

end CollectionRunner.Text
