import CollectionRunner.Text.Blank

namespace CollectionRunner.Template

/-- What stands before the first two closing braces of the line, and what stands after them. -/
def splitClosing? : List Char → Option (List Char × List Char)
  | [] => none
  | '}' :: '}' :: rest => some ([], rest)
  | '\n' :: _ => none
  | c :: rest => (splitClosing? rest).map fun (inner, after) => (c :: inner, after)

/-- A text cut at its leftmost placeholder. -/
structure Cut where
  before : List Char
  inner : List Char
  after : List Char
  deriving DecidableEq, Repr

def leftmost? : List Char → Option Cut
  | [] => none
  | '{' :: '{' :: rest =>
    match splitClosing? rest with
    | some (inner, after) => some ⟨[], inner, after⟩
    | none => (leftmost? ('{' :: rest)).map fun cut => { cut with before := '{' :: cut.before }
  | c :: rest => (leftmost? rest).map fun cut => { cut with before := c :: cut.before }

theorem length_after_splitClosing {s inner after : List Char}
    (h : splitClosing? s = some (inner, after)) : after.length < s.length := by
  fun_induction splitClosing? s generalizing inner with
  | case1 => simp at h
  | case2 rest =>
    simp only [Option.some.injEq, Prod.mk.injEq] at h
    rw [← h.2, List.length_cons, List.length_cons]
    omega
  | case3 => simp at h
  | case4 c rest _ _ ih =>
    obtain ⟨⟨a, b⟩, hs, he⟩ := Option.map_eq_some_iff.1 h
    simp only [Prod.mk.injEq] at he
    have := ih (he.2 ▸ hs)
    simp only [List.length_cons]
    omega

theorem length_after_leftmost {s : List Char} {cut : Cut} (h : leftmost? s = some cut) :
    cut.after.length < s.length := by
  fun_induction leftmost? s generalizing cut with
  | case1 => simp at h
  | case2 rest inner after hs =>
    have := length_after_splitClosing hs
    simp only [Option.some.injEq] at h
    simp only [← h, List.length_cons]
    omega
  | case3 rest hs ih =>
    obtain ⟨c, hc, rfl⟩ := Option.map_eq_some_iff.1 h
    have := ih hc
    simp only [List.length_cons] at this ⊢
    omega
  | case4 c rest _ ih =>
    obtain ⟨c, hc, rfl⟩ := Option.map_eq_some_iff.1 h
    have := ih hc
    simp only [List.length_cons]
    omega

/-- What stands in place of a placeholder: its value, or itself when it has none. -/
def replacement (lookup : String → Option String) (inner : List Char) : List Char :=
  match lookup (String.ofList (Text.trimChars inner)) with
  | some value => value.toList
  | none => '{' :: '{' :: inner ++ ['}', '}']

/-- The text with every placeholder replaced, from the left; a value that is put in is not looked at
again. -/
def fill (lookup : String → Option String) (s : List Char) : List Char :=
  match _h : leftmost? s with
  | none => s
  | some cut => cut.before ++ replacement lookup cut.inner ++ fill lookup cut.after
termination_by s.length
decreasing_by exact length_after_leftmost _h

/-- Whether two opening braces stand somewhere in the text. -/
def hasOpening : List Char → Bool
  | '{' :: '{' :: _ => true
  | _ :: rest => hasOpening rest
  | [] => false

/-- The text with every placeholder whose key has a value replaced by it. -/
def resolve (lookup : String → Option String) (text : String) : String :=
  if hasOpening text.toList then String.ofList (fill lookup text.toList) else text

end CollectionRunner.Template
