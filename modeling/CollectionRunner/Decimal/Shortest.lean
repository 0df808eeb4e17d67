import CollectionRunner.Decimal.Binary64

namespace CollectionRunner.Decimal

/-- The number `0.d₁d₂… * 10 ^ point`, where `d₁d₂…` are the digits of `digits`. -/
structure Digits where
  digits : Nat
  point : Int
  deriving DecidableEq, Repr

/-- The scaled question "which numbers of the grid lie next to `m * 2 ^ q`?" as two factors:
the value times the first one, divided by the second one, counts grid steps of `10 ^ step`. -/
def gridFactors (q step : Int) : Nat × Nat :=
  (Nat.pow 2 q.toNat * Nat.pow 10 (-step).toNat, Nat.pow 2 (-q).toNat * Nat.pow 10 step.toNat)

/-- The least `k` of three candidates from `k` on with `m * 2 ^ q < 10 ^ k`. -/
def decimalPoint (m : Nat) (q : Int) : Int :=
  let guess := (((Nat.log2 m : Int) + q) * 30103) / 100000
  let below (k : Int) : Bool := let (a, b) := gridFactors q k; decide (m * a < b)
  if below guess then guess else if below (guess + 1) then guess + 1 else guess + 2

/-- Which points of a grid may stand for a value: either neighbour, or only the nearer one. -/
inductive Neighbours
  | both
  | nearer
  deriving DecidableEq, Repr

/-- The grid point with `count` digits that rounds to the value, the nearer one if there are two. -/
def gridPoint? (neighbours : Neighbours) (m : Nat) (q : Int) (atBinade : Bool) (point : Int)
    (count : Nat) : Option Digits :=
  let (a, b) := gridFactors (q - 2) (point - count)
  let low := (if atBinade then 4 * m - 1 else 4 * m - 2) * a
  let high := (4 * m + 2) * a
  let value := 4 * m * a
  let under := value / b
  let inside (n : Nat) : Bool :=
    if m % 2 = 0 then decide (low ≤ n * b ∧ n * b ≤ high) else decide (low < n * b ∧ n * b < high)
  let down := value - under * b
  let up := (under + 1) * b - value
  let atUnder := decide (down < up) || (down == up && under % 2 == 0)
  let near := if atUnder then under else under + 1
  let far := if atUnder then under + 1 else under
  let pick : Option Nat :=
    if inside near then some near
    else if neighbours = .both && inside far then some far
    else none
  pick.map fun n => if n = Nat.pow 10 count then ⟨1, point + 1⟩ else ⟨n, point⟩

/-- The first grid with a hit, from `count` digits on. -/
def firstGrid (neighbours : Neighbours) (m : Nat) (q : Int) (atBinade : Bool) (point : Int) : Nat → Nat → Digits
  | 0, _ => ⟨m, point⟩
  | n + 1, count =>
    match gridPoint? neighbours m q atBinade point count with
    | some d => d
    | none => firstGrid neighbours m q atBinade point n (count + 1)

/-- The shortest digits of the magnitude of a finite double that is not zero. -/
def shortest (neighbours : Neighbours) (d : Binary64) : Digits :=
  firstGrid neighbours d.significand d.scale d.atBinade (decimalPoint d.significand d.scale) 17 1

end CollectionRunner.Decimal
