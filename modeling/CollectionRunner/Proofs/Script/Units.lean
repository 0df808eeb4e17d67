import CollectionRunner.Script.Key
import Mathlib.Data.Nat.Digits.Lemmas

namespace CollectionRunner.Script

namespace Units

/-- A character of one byte is one unit with the value of that byte. -/
theorem ofChar_of_oneByte {c : Char} (h : (String.utf8EncodeChar c).all (· < 128) = true) :
    (String.utf8EncodeChar c).map (·.toUInt16) = ofChar c := by
  have beyond {n : Nat} (least : 128 ≤ n) (most : n < 256) : ¬ UInt8.ofNat n < 128 := by
    rw [UInt8.lt_iff_toNat_lt, UInt8.toNat_ofNat', Nat.mod_eq_of_lt most]
    exact Nat.not_lt.2 least
  simp only [String.utf8EncodeChar] at h ⊢
  by_cases one : c.val.toNat ≤ 127
  · have plane : c.toNat < 0x10000 := Nat.lt_of_le_of_lt one (by decide)
    rw [if_pos one, ofChar, if_pos plane, List.map_singleton]
    congr 1
    apply UInt16.toNat_inj.1
    change c.val.toNat % 256 = c.val.toNat % 65536
    omega
  -- the first byte of a longer one is no smaller than 192
  · have bound : c.val.toNat < 1114112 := by
      rcases c.valid with h | h <;> omega
    rw [if_neg one] at h
    split_ifs at h <;> rw [List.all_cons, Bool.and_eq_true, decide_eq_true_iff] at h
    · exact absurd h.1 (beyond (by omega) (by omega))
    · exact absurd h.1 (beyond (by omega) (by omega))
    · exact absurd h.1 (beyond (by omega) (by omega))

theorem foldl_pushChar (cs : List Char) (u : Units) :
    cs.foldl pushChar u = u ++ (cs.flatMap ofChar).toArray := by
  induction cs generalizing u with
  | nil => simp
  | cons c cs ih =>
    have step : pushChar u c = u ++ (ofChar c).toArray := by
      unfold pushChar ofChar
      split
      · simp
      · apply Array.toList_inj.1
        simp
    rw [List.foldl_cons, ih, step, List.flatMap_cons]
    apply Array.toList_inj.1
    simp

/-- The units of a text are those of its characters. -/
theorem ofString_eq (s : String) : ofString s = (s.toList.flatMap ofChar).toArray := by
  have bytes : s.toByteArray.data.toList = s.toList.flatMap String.utf8EncodeChar := by
    rw [← String.utf8Encode_toList, List.utf8Encode, List.data_toByteArray]
  simp only [ofString, bytes]
  split
  · rename_i one
    rw [List.all_flatMap, List.all_eq_true] at one
    rw [List.map_flatMap]
    exact congrArg List.toArray (List.flatMap_congr fun c hc => ofChar_of_oneByte (one c hc))
  · rw [ofChars, foldl_pushChar]
    apply Array.toList_inj.1
    simp

theorem toNat_toUInt16 {n : Nat} (h : n < 2 ^ 16) : n.toUInt16.toNat = n := Nat.mod_eq_of_lt h

theorem isHigh_iff (x : UInt16) : isHigh x = true ↔ 0xD800 ≤ x.toNat ∧ x.toNat < 0xDC00 := by
  unfold isHigh
  rw [Bool.and_eq_true, decide_eq_true_iff, decide_eq_true_iff, UInt16.le_iff_toNat_le,
    UInt16.lt_iff_toNat_lt]
  rfl

theorem isLow_iff (x : UInt16) : isLow x = true ↔ 0xDC00 ≤ x.toNat ∧ x.toNat < 0xE000 := by
  unfold isLow
  rw [Bool.and_eq_true, decide_eq_true_iff, decide_eq_true_iff, UInt16.le_iff_toNat_le,
    UInt16.lt_iff_toNat_lt]
  rfl

/-- The two halves of a character beyond the first plane. -/
theorem pair_halves {n : Nat} (beyond : 0x10000 ≤ n) (most : n < 0x110000) :
    let high := (0xD800 + (n - 0x10000) / 0x400).toUInt16
    let low := (0xDC00 + (n - 0x10000) % 0x400).toUInt16
    isHigh high = true ∧ isLow low = true ∧ pair high low = n := by
  intro high low
  have high_eq : high.toNat = 0xD800 + (n - 0x10000) / 0x400 := toNat_toUInt16 (by omega)
  have low_eq : low.toNat = 0xDC00 + (n - 0x10000) % 0x400 := toNat_toUInt16 (by omega)
  refine ⟨(isHigh_iff high).2 (by omega), (isLow_iff low).2 (by omega), ?_⟩
  unfold pair
  omega

theorem not_half (c : Char) (first : c.toNat < 0x10000) :
    isHigh c.toNat.toUInt16 = false ∧ isLow c.toNat.toUInt16 = false := by
  have unit : c.toNat.toUInt16.toNat = c.toNat := toNat_toUInt16 first
  have valid : c.toNat < 0xD800 ∨ 0xDFFF < c.toNat ∧ c.toNat < 0x110000 := c.valid
  refine ⟨Bool.eq_false_iff.2 fun high => ?_, Bool.eq_false_iff.2 fun low => ?_⟩
  · have := (isHigh_iff _).1 high
    omega
  · have := (isLow_iff _).1 low
    omega

variable {u : Units} {before rest : List UInt16} {done : String}

theorem getElem_of_toList {i : Nat} {x : UInt16} (h : u.toList = before ++ x :: rest)
    (hi : i = before.length) : ∃ inside : i < u.size, u[i] = x := by
  subst hi
  have inside : before.length < u.size := by
    rw [← Array.length_toList, h, List.length_append, List.length_cons]
    omega
  refine ⟨inside, ?_⟩
  rw [← Array.getElem_toList]
  simp [h]

/-- Reading goes on behind the units of a character. -/
theorem decodeFrom_ofChar (c : Char) (h : u.toList = before ++ (ofChar c ++ rest)) :
    decodeFrom u before.length done =
      decodeFrom u (before ++ ofChar c).length (done.push c) := by
  unfold ofChar at h ⊢
  rw [decodeFrom]
  split at h
  · rename_i first
    obtain ⟨high, low⟩ := not_half c first
    obtain ⟨inside, unit⟩ := getElem_of_toList h rfl
    have code : c.toNat.toUInt16.toNat = c.toNat := toNat_toUInt16 first
    rw [dif_pos inside, unit, if_pos first]
    simp [high, low, code]
  · rename_i beyond
    have most : c.toNat < 0x110000 := by
      have valid : c.toNat < 0xD800 ∨ 0xDFFF < c.toNat ∧ c.toNat < 0x110000 := c.valid
      omega
    obtain ⟨high, low, code⟩ := pair_halves (not_lt.1 beyond) most
    obtain ⟨inside, unit⟩ := getElem_of_toList h rfl
    obtain ⟨inside', unit'⟩ : ∃ inside : before.length + 1 < u.size, u[before.length + 1] =
        (0xDC00 + (c.toNat - 0x10000) % 0x400).toUInt16 :=
      getElem_of_toList (h.trans (List.append_cons before _ _)) (by simp)
    simp only [dif_pos inside, dif_pos inside', unit, unit', if_neg beyond]
    rw [if_pos high, if_pos low, code, Char.ofNat_toNat, List.length_append]
    rfl

theorem decodeFrom_ofChars (cs : List Char) (h : u.toList = before ++ cs.flatMap ofChar) :
    decodeFrom u before.length done = .ok (done ++ String.ofList cs) := by
  induction cs generalizing before done with
  | nil =>
    have ended : ¬ before.length < u.size := by
      rw [← Array.length_toList, h]
      simp
    rw [decodeFrom, dif_neg ended]
    simp
  | cons c cs ih =>
    rw [List.flatMap_cons] at h
    rw [decodeFrom_ofChar c h, ih (by rw [h, List.append_assoc])]
    congr 1
    apply String.toList_inj.1
    simp

/-- The units of a text are read as that text. -/
theorem decode_ofString (s : String) : decode (ofString s) = .ok s := by
  have read : decodeFrom (ofString s) ([] : List UInt16).length "" =
      .ok ("" ++ String.ofList s.toList) := decodeFrom_ofChars s.toList (by rw [ofString_eq]; rfl)
  rwa [String.empty_append, String.ofList_toList] at read

theorem ofString_injective {s t : String} (h : ofString s = ofString t) : s = t := by
  have read := decode_ofString s
  rw [h, decode_ofString] at read
  exact (Except.ok.inj read).symm

end Units

/-- The units of an array index: its decimal digits, the first of which is no zero if there are
others. -/
def indexUnits (n : Nat) : List UInt16 :=
  if n = 0 then [48] else (Nat.digits 10 n).reverse.map fun d => (48 + d).toUInt16

/-- The digits of a number are told by its value when the first of them is no zero. -/
theorem digits_foldl {ds : List Nat} (digits : ∀ d ∈ ds, d < 10) (first : ds.head? ≠ some 0) :
    (Nat.digits 10 (ds.foldl (fun n d => n * 10 + d) 0)).reverse = ds := by
  have value : ds.foldl (fun n d => n * 10 + d) 0 = Nat.ofDigits 10 ds.reverse := by
    rw [Nat.ofDigits_eq_foldr, List.foldr_reverse]
    congr 1
    funext n d
    rw [Nat.cast_id, Nat.mul_comm, Nat.add_comm]
  have last (h : ds.reverse ≠ []) : ds.reverse.getLast h ≠ 0 := by
    rw [List.getLast_reverse]
    intro zero
    exact first (by rw [← zero, List.head?_eq_some_head])
  have below : ∀ d ∈ ds.reverse, d < 10 := fun d hd => digits d (List.mem_reverse.1 hd)
  rw [value, Nat.digits_ofDigits 10 (by decide) _ below last, List.reverse_reverse]

/-- Units of digits that start with no zero are told by their value. -/
theorem toList_of_digits {u : Units} (some_digit : u.toList ≠ [])
    (digits : ∀ x ∈ u.toList, 48 ≤ x.toNat ∧ x.toNat ≤ 57) (first : u.toList.head? ≠ some 48) :
    u.toList = indexUnits (u.foldl (fun n x => n * 10 + (x.toNat - 48)) 0) := by
  have back : ((u.toList.map fun x => x.toNat - 48).map fun d => (48 + d).toUInt16) = u.toList := by
    rw [List.map_map, List.map_congr_left (g := id), List.map_id]
    intro x hx
    have := digits x hx
    have whole : 48 + (x.toNat - 48) = x.toNat := by omega
    rw [← UInt16.toNat_inj, Function.comp_apply, whole]
    exact Units.toNat_toUInt16 x.toNat_lt
  have value : u.foldl (fun n x => n * 10 + (x.toNat - 48)) 0 =
      (u.toList.map fun x => x.toNat - 48).foldl (fun n d => n * 10 + d) 0 := by
    rw [List.foldl_map, Array.foldl_toList]
  have below : ∀ d ∈ u.toList.map fun x => x.toNat - 48, d < 10 := by
    intro d hd
    obtain ⟨x, hx, rfl⟩ := List.mem_map.1 hd
    have := digits x hx
    omega
  have leading : (u.toList.map fun x => x.toNat - 48).head? ≠ some 0 := by
    obtain ⟨x, rest, cons⟩ := List.exists_cons_of_ne_nil some_digit
    rw [cons] at digits first ⊢
    have := digits x List.mem_cons_self
    intro zero
    refine first (congrArg some (UInt16.toNat_inj.1 ?_))
    have : x.toNat - 48 = 0 := Option.some.inj zero
    change x.toNat = 48
    omega
  have told := digits_foldl below leading
  have positive : u.foldl (fun n x => n * 10 + (x.toNat - 48)) 0 ≠ 0 := by
    rw [value, ← Nat.digits_ne_nil_iff_ne_zero (b := 10), ← List.reverse_ne_nil_iff, told]
    simpa using some_digit
  unfold indexUnits
  rw [if_neg positive, value, told, back]

theorem toList_of_indexOfUnits? {u : Units} {n : Nat} (h : indexOfUnits? u = some n) :
    u.toList = indexUnits n := by
  unfold indexOfUnits? at h
  split at h
  · cases h
  · rename_i size
    have some_digit : 0 < u.toList.length := by
      rw [Array.length_toList]
      exact Nat.pos_of_ne_zero fun none => size (by simp [none])
    obtain ⟨x, rest, cons⟩ := List.exists_cons_of_length_pos some_digit
    have first : u.getD 0 0 = x := by
      have whole : u = (x :: rest).toArray := Array.toList_inj.1 cons
      rw [whole]
      rfl
    split at h
    · rename_i zero
      split at h
      · rename_i one
        obtain rfl := Option.some.inj h
        rw [← Array.length_toList, cons, List.length_cons, Nat.add_eq_right,
          List.length_eq_zero_iff] at one
        rw [cons, one, ← first, eq_of_beq zero]
        rfl
      · cases h
    · rename_i nonzero
      split at h
      · rename_i digits
        obtain ⟨-, found⟩ := Option.ite_none_right_eq_some.1 h
        obtain rfl := Option.some.inj found
        refine toList_of_digits (List.ne_nil_of_length_pos some_digit) ?_ ?_
        · intro x hx
          have digit := List.all_eq_true.1 (Array.all_toList.trans digits) x hx
          rw [Bool.and_eq_true, decide_eq_true_iff, decide_eq_true_iff, UInt16.le_iff_toNat_le,
            UInt16.le_iff_toNat_le] at digit
          exact digit
        · rw [cons, List.head?_cons, ← first]
          intro zero
          exact nonzero (beq_iff_eq.2 (Option.some.inj zero))
      · cases h

theorem Key.ofString_injective {a b : String} (h : Key.ofString a = Key.ofString b) : a = b := by
  unfold Key.ofString Key.ofUnits at h
  apply Units.ofString_injective
  split at h <;> split at h
  · rename_i n index _ _ index'
    obtain rfl := Key.index.inj h
    apply Array.toList_inj.1
    rw [toList_of_indexOfUnits? index, toList_of_indexOfUnits? index']
  · cases h
  · cases h
  · exact Key.text.inj h

end CollectionRunner.Script
