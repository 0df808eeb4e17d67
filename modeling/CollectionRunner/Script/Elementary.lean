import CollectionRunner.Decimal.Nearest
import CollectionRunner.Script.Numeral

namespace CollectionRunner.Script.Elementary

open Decimal

/-- The logarithm of two, in a part that products with small whole numbers leave exact, and the
rest. -/
def logTwoHigh : Float := Float.ofBits 0x3FE62E42FEE00000

def logTwoLow : Float := Float.ofBits 0x3DEA39EF35793C76

/-- A polynomial by its coefficients, that of the lowest power first. -/
def polynomial (coefficients : List Float) (x : Float) : Float :=
  match coefficients with
  | [] => 0
  | [a] => a
  | a :: rest => a + x * polynomial rest x

/-- The whole number of logarithms of two that is taken off, what is left of an argument, and what
rounding has taken off too much. -/
def reduced (x : Float) : Int × Float × Float :=
  let split (k : Int) : Int × Float × Float :=
    let t := intFloat k
    let high := x - t * logTwoHigh
    let low := t * logTwoLow
    (k, high - low, (high - (high - low)) - low)
  if x.abs < Float.ofBits 0x3FD62E4300000000 then (0, x, 0)
  else if x.abs < Float.ofBits 0x3FF0A2B200000000 then split (if x < 0 then -1 else 1)
  else split (truncated (1.44269504088896338700 * x + if x < 0 then -0.5 else 0.5))

def expMinusOne (x : Float) : Float :=
  if x.isNaN || x.abs < Float.ofBits 0x3C90000000000000 then x
  else if 709.782712893384 < x then infinity
  else if x < -38.816242 then -1
  else
    let (k, x, c) := reduced x
    let half := 0.5 * x
    let square := x * half
    let r := polynomial
      [1, -3.33333333333331316428e-02, 1.58730158725481460165e-03, -7.93650757867487942473e-05,
       4.00821782736932239552e-06, -2.01099218183624371326e-07] square
    let t := 3 - r * half
    let e := square * ((r - t) / (6 - x * t))
    if k = 0 then x - (x * e - square)
    else
      let e := (x * (e - c) - c) - square
      if k = -1 then 0.5 * (x - e) - 0.5
      else if k = 1 then (if x < -0.25 then -2 * (e - (x + 0.5)) else 1 + 2 * (x - e))
      else if k < 0 || 56 < k then (x - e + 1).scaleB k - 1
      else
        let part := (1.0 : Float).scaleB (-k)
        if k < 20 then (x - e + (1 - part)).scaleB k
        else (x - (e + part) + 1).scaleB k

/-- A positive number as a power of two and a factor near to one, with the twenty highest bits that
tell the factor from the nearest power of two. -/
def factored (u : Float) : Int × Float × Nat :=
  let d := Binary64.ofFloat u
  let k : Int := (d.exponentBits : Int) - 1023
  let high := d.fractionBits / Nat.pow 2 32
  let withExponent (e : Nat) : Float := Float.ofBits (e * Nat.pow 2 52 + d.fractionBits).toUInt64
  if high < 0x6A09E then (k, withExponent 1023, high)
  else (k + 1, withExponent 1022, (0x100000 - high) / 4)

/-- The logarithm of `2 ^ k * (1 + f)`, and `c` more. -/
def logarithm (k : Int) (f c : Float) (high : Nat) : Float :=
  let t := intFloat k
  let half := 0.5 * f * f
  if high = 0 && k != 0 && f == 0 then t * logTwoHigh + (c + t * logTwoLow)
  else if high = 0 then
    let r := half * (1 - 0.66666666666666666 * f)
    if k = 0 then f - r else t * logTwoHigh - ((r - (t * logTwoLow + c)) - f)
  else
    let s := f / (2 + f)
    let z := s * s
    let r := z * polynomial
      [6.666666666666735130e-01, 3.999999999940941908e-01, 2.857142874366239149e-01,
       2.222219843214978396e-01, 1.818357216161805012e-01, 1.531383769920937332e-01,
       1.479819860511658591e-01] z
    if k = 0 then f - (half - s * (half + r))
    else t * logTwoHigh - ((half - (s * (half + r) + (t * logTwoLow + c))) - f)

def logOnePlus (x : Float) : Float :=
  if x.isNaN || x == infinity || x.abs < Float.ofBits 0x3C90000000000000 then x
  else if x < -1 then nan
  else if x == -1 then -infinity
  else if x.abs < Float.ofBits 0x3E20000000000000 then x - x * x * 0.5
  else if Float.ofBits 0xBFD2BEC500000000 < x && x < Float.ofBits 0x3FDA827A00000000 then
    logarithm 0 x 0 1
  else
    let u := if x < 9007199254740992 then 1 + x else x
    let (k, factor, high) := factored u
    let c :=
      if 9007199254740992 ≤ x then 0
      else (if 0 < (Binary64.ofFloat u).scale + 52 then 1 - (u - x) else x - (u - 1)) / u
    logarithm k (factor - 1) c high

/-- The whole part of a square root, from an estimate above it. -/
def squareRootFrom (n : Nat) : Nat → Nat → Nat
  | 0, x => x
  | fuel + 1, x =>
    let y := (x + n / x) / 2
    if y < x then squareRootFrom n fuel y else x

def squareRoot (n : Nat) : Nat :=
  if n = 0 then 0 else squareRootFrom n (Nat.log2 n + 8) (Nat.pow 2 (Nat.log2 n / 2 + 1))

/-- The whole part of a cube root, from an estimate above it. -/
def cubeRootFrom (n : Nat) : Nat → Nat → Nat
  | 0, x => x
  | fuel + 1, x =>
    let y := (2 * x + n / (x * x)) / 3
    if y < x then cubeRootFrom n fuel y else x

/-- The double nearest to the cube root. As with diagonals, a last bit says that there is more than
the root tells. -/
def cubeRoot (x : Float) : Float :=
  if x.isNaN || x.isInf || x == 0 then x
  else
    let d := Binary64.ofFloat x
    let more := 210 + (d.scale - 210) % 3
    let n := d.significand * Nat.pow 2 more.toNat
    let root := cubeRootFrom n (Nat.log2 n + 8) (Nat.pow 2 (Nat.log2 n / 3 + 1))
    let y := nearest (2 * root + if root * root * root == n then 0 else 1) ((d.scale - more) / 3 - 1)
    if d.negative then -y else y

/-- The length of the diagonal over two sides. The root is taken to many more bits than a double has;
a last bit that is set says that there is still more. -/
def hypotenuse (x y : Float) : Float :=
  if x.isInf || y.isInf then infinity
  else if x.isNaN || y.isNaN then nan
  else if x == 0 then y.abs
  else if y == 0 then x.abs
  else
    let a := Binary64.ofFloat x
    let b := Binary64.ofFloat y
    let e := min a.scale b.scale
    let m := a.significand * Nat.pow 2 (a.scale - e).toNat
    let n := b.significand * Nat.pow 2 (b.scale - e).toNat
    let square := (m * m + n * n) * Nat.pow 2 240
    let root := squareRoot square
    nearest (2 * root + if root * root == square then 0 else 1) (e - 121)

/-- The double nearest to the sum of finite ones. -/
def sum (xs : List Float) : Float :=
  let unit : Int := xs.foldl
    (fun n x =>
      let d := Binary64.ofFloat x
      let m : Int := d.significand * Int.pow 2 (d.scale + 1074).toNat
      if d.negative then n - m else n + m) 0
  nearestInt unit (-1074)

end CollectionRunner.Script.Elementary
