import CollectionRunner.Text.Clip

namespace CollectionRunner.Text

variable {limit : Nat} {s p q : String}

theorem prefix_iff_append : q.toList <+: s.toList ↔ ∃ later, s = q ++ later := by
  refine ⟨fun ⟨rest, whole⟩ => ⟨String.ofList rest, ?_⟩, fun ⟨later, whole⟩ => ?_⟩
  · rw [← String.toList_inj, String.toList_append, String.toList_ofList, whole]
  · rw [whole, String.toList_append]
    exact List.prefix_append _ _

theorem utf8ByteSize_mono (h : q.toList <+: s.toList) :
    q.utf8ByteSize ≤ s.utf8ByteSize := by
  obtain ⟨later, rfl⟩ := prefix_iff_append.1 h
  rw [String.utf8ByteSize_append]
  exact Nat.le_add_right _ _

/-- Of two beginnings of a text the one with no more bytes is a beginning of the other. -/
theorem prefix_of_utf8ByteSize_le (hp : p.toList <+: s.toList) (hq : q.toList <+: s.toList)
    (h : q.utf8ByteSize ≤ p.utf8ByteSize) : q.toList <+: p.toList := by
  rcases List.prefix_or_prefix_of_prefix hq hp with short | long
  · exact short
  · obtain ⟨later, rfl⟩ := prefix_iff_append.1 long
    rw [String.utf8ByteSize_append] at h
    have none : later = "" := String.utf8ByteSize_eq_zero_iff.1 (by omega)
    simp [none]

/-- A text that is too long is cut at the last place up to the limit, and so no beginning of it
that fits is longer than what is shown. -/
theorem clip?_of_lt (h : limit < s.utf8ByteSize) : ∃ p, clip? limit s = some p ∧
    boundaryUpTo? s.toByteArray limit = some p.utf8ByteSize ∧ p.toList <+: s.toList ∧
      p.utf8ByteSize ≤ limit ∧
      ∀ q : String, q.toList <+: s.toList → q.utf8ByteSize ≤ limit → q.toList <+: p.toList := by
  obtain ⟨stop, le, found, boundary, last⟩ := boundaryUpTo?_spec s.toByteArray limit
  obtain ⟨p, rest, rfl, rfl⟩ := isBoundary_iff.1 boundary
  have front : p.toList <+: (p ++ rest).toList := prefix_iff_append.2 ⟨rest, rfl⟩
  refine ⟨p, ?_, found, front, le, fun q hq fits => prefix_of_utf8ByteSize_le front hq ?_⟩
  · rw [clip?, if_neg (Nat.not_le.2 h), found, Option.bind_some, before?_append]
  · refine Nat.not_lt.1 fun longer => ?_
    obtain ⟨later, whole⟩ := prefix_iff_append.1 hq
    have other : isBoundary (p ++ rest).toByteArray q.utf8ByteSize = true :=
      isBoundary_iff.2 ⟨q, later, whole, rfl⟩
    rw [last _ longer fits] at other
    cases other

/-- What fits into the limit is shown whole. -/
theorem clip?_of_le (h : s.utf8ByteSize ≤ limit) : clip? limit s = some s := if_pos h

/-- Behind the longest beginning of a text that fits stands a character that does not fit. -/
theorem next_too_long (front : p.toList <+: s.toList) (short : p.utf8ByteSize < s.utf8ByteSize)
    (longest : ∀ q : String, q.toList <+: s.toList → q.utf8ByteSize ≤ limit →
      q.toList <+: p.toList) :
    ∃ c rest, s.toList = p.toList ++ c :: rest ∧ limit < p.utf8ByteSize + c.utf8Size := by
  obtain ⟨rest, whole⟩ := front
  cases rest with
  | nil =>
    rw [List.append_nil, String.toList_inj] at whole
    exact absurd short (whole ▸ Nat.lt_irrefl _)
  | cons c rest =>
    refine ⟨c, rest, whole.symm, Nat.not_le.1 fun fits => ?_⟩
    -- a beginning with this character would have to be one of what is shown
    have more : (p.push c).toList <+: s.toList := ⟨rest, by rw [← whole]; simp⟩
    have size : (p.push c).utf8ByteSize = p.utf8ByteSize + c.utf8Size := by simp
    have longer := utf8ByteSize_mono (longest _ more (size ▸ fits))
    have pos := c.utf8Size_pos
    omega

/-- What is shown has for its beginnings those of the text that fit into the limit. It is the text
where that fits; else the search for a place to cut ends at one up to the limit, and the next
character is too long. -/
theorem clip_longest (limit : Nat) (s : String) :
    ∃ p, clip? limit s = some p ∧ clip limit s = p ∧
      (∀ q : String, q.toList <+: p.toList ↔
        q.toList <+: s.toList ∧ q.utf8ByteSize ≤ limit) ∧
      (s.utf8ByteSize ≤ limit ∧ p = s ∨
        boundaryUpTo? s.toByteArray limit = some p.utf8ByteSize ∧ p.utf8ByteSize ≤ limit ∧
          ∃ c rest, s.toList = p.toList ++ c :: rest ∧ limit < p.utf8ByteSize + c.utf8Size) := by
  have shows {p : String} (h : clip? limit s = some p) : clip limit s = p := by
    simp only [clip, h, Option.get_some]
  rcases Nat.lt_or_ge limit s.utf8ByteSize with long | fits
  · obtain ⟨p, shown, found, front, le, longest⟩ := clip?_of_lt long
    have next := next_too_long front (Nat.lt_of_le_of_lt le long) longest
    refine ⟨p, shown, shows shown, fun q => ⟨fun h => ?_, fun h => longest q h.1 h.2⟩,
      .inr ⟨found, le, next⟩⟩
    exact ⟨h.trans front, Nat.le_trans (utf8ByteSize_mono h) le⟩
  · refine ⟨s, clip?_of_le fits, shows (clip?_of_le fits), fun q => ⟨fun h => ?_, And.left⟩,
      .inl ⟨fits, rfl⟩⟩
    exact ⟨h, Nat.le_trans (utf8ByteSize_mono h) fits⟩

/-- Within the second character nothing can be cut, and before the first there is always a place. -/
example : clip? 2 "h\u00e9llo" = some "h" ∧ clip? 2 "\u20ac" = some "" := by decide +kernel

end CollectionRunner.Text
