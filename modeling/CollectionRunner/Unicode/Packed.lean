namespace CollectionRunner.Unicode

/-- The place of a character among digits, capital letters, small letters, `-` and `_`. -/
def packedDigit (c : Char) : Nat :=
  let n := c.toNat
  if 48 ≤ n && n ≤ 57 then n - 48
  else if 65 ≤ n && n ≤ 90 then n - 55
  else if 97 ≤ n && n ≤ 122 then n - 61
  else if n = 45 then 62
  else 63

/-- The numbers that characters hold, after the part of one that has been read. -/
def unpackFrom : List Char → (part scale : Nat) → (done : Array Nat) → Array Nat
  | [], _, _, done => done
  | c :: rest, part, scale, done =>
    let d := packedDigit c
    if d < 32 then unpackFrom rest 0 1 (done.push (part + d * scale))
    else unpackFrom rest (part + (d - 32) * scale) (scale * 32) done

/-- The numbers of a table: five bits a character, the lowest first, and a character from the upper
half of the alphabet when more follow. -/
def unpack (lines : List String) : Array Nat :=
  unpackFrom (lines.flatMap String.toList) 0 1 #[]

/-- A whole number from its place in the row 0, -1, 1, -2, 2 and so on. -/
def signed (n : Nat) : Int := if n % 2 = 0 then (n / 2 : Nat) else -((n + 1) / 2 : Nat)

end CollectionRunner.Unicode
