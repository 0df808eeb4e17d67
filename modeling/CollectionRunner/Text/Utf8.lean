namespace CollectionRunner.Text

/-- The bytes that may follow the first one, from the least to the greatest second byte, and how
many more there are after that. -/
def sequenceAfter (b : UInt8) : Option (UInt8 × UInt8 × Nat) :=
  if 0xC2 ≤ b && b ≤ 0xDF then some (0x80, 0xBF, 0)
  else if b = 0xE0 then some (0xA0, 0xBF, 1)
  else if b = 0xED then some (0x80, 0x9F, 1)
  else if 0xE1 ≤ b && b ≤ 0xEF then some (0x80, 0xBF, 1)
  else if b = 0xF0 then some (0x90, 0xBF, 2)
  else if 0xF1 ≤ b && b ≤ 0xF3 then some (0x80, 0xBF, 2)
  else if b = 0xF4 then some (0x80, 0x8F, 2)
  else none

def isTail (b : UInt8) : Bool := 0x80 ≤ b && b ≤ 0xBF

/-- Characters of the bytes. The longest start of a sequence that breaks off is one replacement
character, and so is a byte that starts none. -/
def lossyFrom : Nat → List UInt8 → List Char
  | 0, _ => []
  | _, [] => []
  | fuel + 1, b :: rest =>
    if b < 0x80 then Char.ofNat b.toNat :: lossyFrom fuel rest
    else match sequenceAfter b with
      | none => '\uFFFD' :: lossyFrom fuel rest
      | some (low, high, more) =>
        match rest with
        | c :: tail =>
          if ! (low ≤ c && c ≤ high) then '\uFFFD' :: lossyFrom fuel rest
          else
            let others := (tail.take more).takeWhile isTail
            if others.length = more then
              let lead := if more = 0 then b.toNat - 0xC0
                else if more = 1 then b.toNat - 0xE0 else b.toNat - 0xF0
              let code := (c :: others).foldl (fun n d => n * 64 + (d.toNat - 0x80)) lead
              Char.ofNat code :: lossyFrom fuel (tail.drop more)
            else '\uFFFD' :: lossyFrom fuel (tail.drop others.length)
        | [] => ['\uFFFD']

def lossy (bytes : List UInt8) : String := String.ofList (lossyFrom bytes.length bytes)

end CollectionRunner.Text
