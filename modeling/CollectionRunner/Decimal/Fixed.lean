import CollectionRunner.Decimal.Binary64

namespace CollectionRunner.Decimal

/-- The whole number next to a quotient; a half goes to the even neighbour. -/
def roundDiv (a b : Nat) : Nat :=
  let n := a / b
  let twice := 2 * (a % b)
  if twice < b || (twice == b && n % 2 == 0) then n else n + 1

/-- The magnitude of a finite double, counted in units of `10 ^ -places`. -/
def Binary64.units (places : Nat) (d : Binary64) : Nat :=
  roundDiv (d.significand * Nat.pow 2 d.scale.toNat * Nat.pow 10 places)
    (Nat.pow 2 (-d.scale).toNat)

/-- The text of a finite double with the given number of digits after the point. -/
def fixed (places : Nat) (d : Binary64) : String :=
  let n := d.units places
  let tail := toString (n % Nat.pow 10 places)
  (if d.negative then "-" else "") ++ toString (n / Nat.pow 10 places) ++ "." ++
    String.ofList (List.replicate (places - tail.length) '0') ++ tail

end CollectionRunner.Decimal
