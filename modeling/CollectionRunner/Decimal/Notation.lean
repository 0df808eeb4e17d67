import CollectionRunner.Decimal.Shortest

namespace CollectionRunner.Decimal

/-- A way to write numbers. -/
structure Style where
  /-- Positions of the decimal point, from the first digit on, that are written positionally:
  above the first and up to the second. Without them every number is. -/
  positional : Option (Int × Int)
  /-- What follows a whole number that is written positionally. -/
  wholeTail : String
  /-- What precedes a power of ten that is not negative. -/
  powerSign : String
  /-- Which numbers with fewer digits may stand for a double. -/
  neighbours : Neighbours := .both

def zeros (n : Nat) : String := String.ofList (List.replicate n '0')

/-- The digits with the decimal point after the first `point` of them. -/
def positionalText (digits : List Char) (point : Int) (wholeTail : String) : String :=
  if point ≤ 0 then "0." ++ zeros (-point).toNat ++ String.ofList digits
  else if digits.length ≤ point then
    String.ofList digits ++ zeros (point.toNat - digits.length) ++ wholeTail
  else
    String.ofList (digits.take point.toNat) ++ "." ++ String.ofList (digits.drop point.toNat)

/-- One digit, the others after a point, and the power of ten. -/
def scientificText (digits : List Char) (point : Int) (powerSign : String) : String :=
  let tail := digits.drop 1
  let power := point - 1
  String.ofList (digits.take 1) ++ (if tail.isEmpty then "" else "." ++ String.ofList tail) ++ "e" ++
    (if power < 0 then toString power else powerSign ++ toString power)

def Style.digitsText (style : Style) (d : Digits) : String :=
  let digits := Nat.toDigits 10 d.digits
  match style.positional with
  | none => positionalText digits d.point style.wholeTail
  | some (least, most) =>
    if least < d.point && d.point ≤ most then positionalText digits d.point style.wholeTail
    else scientificText digits d.point style.powerSign

/-- The text of a finite double. -/
def Style.text (style : Style) (d : Binary64) : String :=
  (if d.negative then "-" else "") ++
    (if d.significand = 0 then "0" ++ style.wholeTail else style.digitsText (shortest style.neighbours d))

/-- Every digit is written in its place. -/
def plain : Style := ⟨none, "", "", .both⟩

end CollectionRunner.Decimal
