import CollectionRunner.Text.Utf8

namespace CollectionRunner.Text

/-- Whether a text can be cut after so many of its bytes: at its ends, and where the next byte does
not continue a character. -/
def isBoundary (bytes : ByteArray) (n : Nat) : Bool :=
  n == 0 || if h : n < bytes.size then ! isTail bytes[n] else n == bytes.size

/-- The last place up to `n` where a text can be cut. Nothing is found below zero. -/
def boundaryUpTo? (bytes : ByteArray) : Nat → Option Nat
  | 0 => if isBoundary bytes 0 then some 0 else none
  | n + 1 => if isBoundary bytes (n + 1) then some (n + 1) else boundaryUpTo? bytes n

/-- What stands before a place of a text; nothing if it cannot be cut there. -/
def before? (s : String) (stop : Nat) : Option String :=
  if isBoundary s.toByteArray stop then String.fromUTF8? (s.toByteArray.extract 0 stop) else none

/-- The text itself if it fits into `limit` bytes, and else what stands before the last place up to
there where it can be cut. -/
def clip? (limit : Nat) (s : String) : Option String :=
  if s.utf8ByteSize ≤ limit then some s
  else (boundaryUpTo? s.toByteArray limit).bind (before? s)

variable {s : String} {b : UInt8} {n : Nat}

theorem isTail_ofNat (h : n < 256) : isTail (UInt8.ofNat n) = true ↔ 128 ≤ n ∧ n < 192 := by
  have value : (UInt8.ofNat n).toNat = n := by
    rw [UInt8.toNat_ofNat', Nat.mod_eq_of_lt h]
  simp only [isTail, Bool.and_eq_true, decide_eq_true_eq, UInt8.le_iff_toNat_le, value]
  exact and_congr_right fun _ => Nat.lt_succ_iff.symm

/-- All bytes of a character but the first continue it. -/
theorem utf8EncodeChar_tails (c : Char) : ∃ first rest, String.utf8EncodeChar c = first :: rest ∧
    isTail first = false ∧ ∀ b ∈ rest, isTail b = true := by
  have first {n : Nat} (h : n < 256) (lead : n < 128 ∨ 192 ≤ n) :
      isTail (UInt8.ofNat n) = false := by
    rw [Bool.eq_false_iff, ne_eq, isTail_ofNat h]
    omega
  have tail (n : Nat) : isTail (UInt8.ofNat (n % 64 + 128)) = true := by
    rw [isTail_ofNat (by omega)]
    omega
  have bound : c.val.toNat < 1114112 := by
    rcases c.valid with h | h <;> omega
  have one (n : Nat) : ∀ b ∈ [UInt8.ofNat (n % 64 + 128)], isTail b = true :=
    List.forall_mem_singleton.2 (tail n)
  simp only [String.utf8EncodeChar]
  split
  · exact ⟨_, [], rfl, first (by omega) (by omega), List.forall_mem_nil _⟩
  split
  · exact ⟨_, _, rfl, first (by omega) (by omega), one _⟩
  split
  · exact ⟨_, _, rfl, first (by omega) (by omega), List.forall_mem_cons.2 ⟨tail _, one _⟩⟩
  · exact ⟨_, _, rfl, first (by omega) (by omega),
      List.forall_mem_cons.2 ⟨tail _, List.forall_mem_cons.2 ⟨tail _, one _⟩⟩⟩

theorem isUTF8FirstByte_iff_of_mem (h : b ∈ s.toByteArray.data) :
    b.IsUTF8FirstByte ↔ isTail b = false := by
  have coded : b ∈ s.toList.flatMap String.utf8EncodeChar := by
    rw [← String.utf8Encode_toList, List.utf8Encode, List.data_toByteArray] at h
    exact List.mem_toArray.1 h
  obtain ⟨c, -, hb⟩ := List.mem_flatMap.1 coded
  obtain ⟨first, rest, bytes, lead, tails⟩ := utf8EncodeChar_tails c
  obtain ⟨i, hi, rfl⟩ := List.mem_iff_getElem.1 hb
  rw [UInt8.isUTF8FirstByte_getElem_utf8EncodeChar]
  cases i with
  | zero => simp [bytes, lead]
  | succ i =>
    simp only [bytes, List.length_cons] at hi
    simp [bytes, tails _ (List.getElem_mem (Nat.lt_of_succ_lt_succ hi))]

theorem isBoundary_iff_isValid :
    isBoundary s.toByteArray n = true ↔ String.Pos.Raw.IsValid s ⟨n⟩ := by
  rcases Nat.eq_zero_or_pos n with rfl | pos
  · exact iff_of_true rfl String.Pos.Raw.isValid_zero
  -- within the text its byte tells whether a place is one to cut at, and behind it nothing is
  have later : (n == 0) = false := beq_false_of_ne (Nat.ne_of_gt pos)
  rw [String.Pos.Raw.isValid_iff_isUTF8FirstByte, isBoundary, later, Bool.false_or]
  by_cases inside : n < s.toByteArray.size
  · have first : s.toByteArray[n].IsUTF8FirstByte ↔ isTail s.toByteArray[n] = false :=
      isUTF8FirstByte_iff_of_mem (Array.getElem_mem inside)
    have before : (⟨n⟩ : String.Pos.Raw) ≠ s.rawEndPos := fun h =>
      Nat.ne_of_lt inside (congrArg String.Pos.Raw.byteIdx h)
    rw [dif_pos inside, Bool.not_eq_true', ← first, or_iff_right before]
    exact ⟨fun h => ⟨inside, h⟩, fun ⟨_, h⟩ => h⟩
  · have outside : ¬ ∃ h, (s.getUTF8Byte ⟨n⟩ h).IsUTF8FirstByte := fun ⟨h, _⟩ => inside h
    rw [dif_neg inside, or_iff_left outside, beq_iff_eq]
    exact ⟨fun h => congrArg String.Pos.Raw.mk h, fun h => congrArg String.Pos.Raw.byteIdx h⟩

/-- The places to cut a text at are those where a text ends and another one follows. -/
theorem isBoundary_iff :
    isBoundary s.toByteArray n = true ↔ ∃ p rest, s = p ++ rest ∧ p.utf8ByteSize = n := by
  rw [isBoundary_iff_isValid, String.Pos.Raw.isValid_iff_exists_append]
  simp [String.Pos.Raw.ext_iff, eq_comm]

theorem before?_append (p rest : String) : before? (p ++ rest) p.utf8ByteSize = some p := by
  have cut : (p ++ rest).toByteArray.extract 0 p.utf8ByteSize = p.toByteArray := by
    rw [String.toByteArray_append]
    exact ByteArray.extract_append_eq_left rfl
  rw [before?, if_pos (isBoundary_iff.2 ⟨p, rest, rfl, rfl⟩), cut]
  exact dif_pos p.isValidUTF8

theorem boundaryUpTo?_spec (bytes : ByteArray) (n : Nat) :
    ∃ stop ≤ n, boundaryUpTo? bytes n = some stop ∧ isBoundary bytes stop = true ∧
      ∀ m, stop < m → m ≤ n → isBoundary bytes m = false := by
  induction n with
  | zero =>
    have start : isBoundary bytes 0 = true := rfl
    exact ⟨0, Nat.le_refl 0, if_pos start, start, fun m hlt hle => absurd hlt (Nat.not_lt.2 hle)⟩
  | succ n ih =>
    rw [boundaryUpTo?]
    split
    · next here =>
      exact ⟨n + 1, Nat.le_refl _, rfl, here, fun m hlt hle => absurd hlt (Nat.not_lt.2 hle)⟩
    · next none =>
      obtain ⟨stop, le, found, boundary, later⟩ := ih
      refine ⟨stop, Nat.le_succ_of_le le, found, boundary, fun m hlt hle => ?_⟩
      rcases Nat.le_succ_iff.1 hle with hle | rfl
      · exact later m hlt hle
      · exact Bool.eq_false_iff.2 none

theorem isSome_clip? (limit : Nat) (s : String) : (clip? limit s).isSome = true := by
  unfold clip?
  split
  · rfl
  · obtain ⟨stop, -, found, boundary, -⟩ := boundaryUpTo?_spec s.toByteArray limit
    obtain ⟨p, rest, rfl, rfl⟩ := isBoundary_iff.1 boundary
    rw [found, Option.bind_some, before?_append]
    rfl

/-- The longest part from the front, in whole characters, that fits into a number of bytes. -/
def clip (limit : Nat) (s : String) : String := (clip? limit s).get (isSome_clip? limit s)

end CollectionRunner.Text
