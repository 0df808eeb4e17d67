import CollectionRunner.Decimal.Binary64

namespace CollectionRunner.Decimal

/-- A binary format: how many bits its significands have, and the power of two of its least step. -/
structure Format where
  bits : Nat
  least : Int

namespace Format

def double : Format := ⟨53, -1074⟩

def half : Format := ⟨11, -24⟩

/-- The number of the format nearest to `m * 2 ^ e`, in the same form; of two as near the even
one. -/
def round (f : Format) (m : Nat) (e : Int) : Nat × Int :=
  let shift := max ((Nat.log2 m : Int) + 1 - f.bits) (f.least - e)
  if shift ≤ 0 then (m, e)
  else
    let unit := Nat.pow 2 shift.toNat
    let q := m / unit
    let twice := 2 * (m % unit)
    (if twice < unit || (twice == unit && q % 2 == 0) then q else q + 1, e + shift)

end Format

/-- The double nearest to `m * 2 ^ e`. -/
def nearest (m : Nat) (e : Int) : Float :=
  let (q, e) := Format.double.round m e
  q.toUInt64.toFloat.scaleB e

/-- The double nearest to `m * 2 ^ e` for a number with a sign. -/
def nearestInt (m : Int) (e : Int) : Float :=
  if m < 0 then -(nearest m.natAbs e) else nearest m.natAbs e

/-- The number with sixteen bits nearest to a double; from 65520 on that is infinity. -/
def toHalf (x : Float) : Float :=
  if x.isNaN || x.isInf then x
  else
    let d := Binary64.ofFloat x
    let (q, e) := Format.half.round d.significand d.scale
    let y := q.toUInt64.toFloat.scaleB e
    let y := if 65536 ≤ y then 1.0 / 0.0 else y
    if d.negative then -y else y

end CollectionRunner.Decimal
