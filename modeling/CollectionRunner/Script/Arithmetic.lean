import CollectionRunner.Script.Numeral

namespace CollectionRunner.Script

open Decimal

/-- The remainder of a division that is cut off towards zero; its sign is that of the first number. -/
def remainder (x y : Float) : Float :=
  if x.isNaN || y.isNaN || x.isInf || y == 0 then nan
  else if y.isInf || x == 0 || x.abs < y.abs then x
  else if x.abs < 9007199254740992.0 && x.floor == x && y.floor == y then
    let r := (x.abs.toUInt64 % y.abs.toUInt64).toFloat
    if x < 0 then -r else r
  else
    let a := Binary64.ofFloat x
    let b := Binary64.ofFloat y
    let e := min a.scale b.scale
    let m := (a.significand * Nat.pow 2 (a.scale - e).toNat) %
      (b.significand * Nat.pow 2 (b.scale - e).toNat)
    let r := m.toUInt64.toFloat.scaleB e
    if x < 0 then -r else r

def power (x y : Float) : Float :=
  if y.isNaN || (x.abs == 1 && y.isInf) then nan else Float.pow x y

namespace Big

/-- Applies an operation to the bits of two numbers; a negative one begins with ones without end. -/
def bitwise (op : Nat → Nat → Nat) (a b : Int) : Int :=
  let width := max (Nat.log2 a.natAbs) (Nat.log2 b.natAbs) + 2
  let size : Int := Int.pow 2 width
  let n := op (a % size).toNat (b % size).toNat
  if n < Nat.pow 2 (width - 1) then n else (n : Int) - size

/-- Multiplies by a power of two; a negative one divides and rounds down. -/
def shiftLeft (a b : Int) : Int :=
  if 0 ≤ b then a * Int.pow 2 b.toNat else Int.fdiv a (Int.pow 2 b.natAbs)

/-- The order of a whole number and a double; none with what is no number. -/
def compareFloat (n : Int) (x : Float) : Option Ordering :=
  if x.isNaN then none
  else if x.isInf then some (if x > 0 then .lt else .gt)
  else
    let (num, den) := quotient x
    let size : Int := if x < 0 then -(num : Int) else num
    some (compare (n * den) size)

end Big

end CollectionRunner.Script
