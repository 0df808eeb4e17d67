namespace CollectionRunner.Decimal

/-- A double, given by its bits. -/
structure Binary64 where
  bits : UInt64
  deriving DecidableEq, Repr

namespace Binary64

def ofFloat (x : Float) : Binary64 := ⟨x.toBits⟩

def negative (d : Binary64) : Bool := d.bits >>> 63 == 1

/-- The eleven exponent bits. -/
def exponentBits (d : Binary64) : Nat := ((d.bits >>> 52) &&& 0x7FF).toNat

/-- The fifty-two fraction bits. -/
def fractionBits (d : Binary64) : Nat := (d.bits &&& 0xFFFFFFFFFFFFF).toNat

def isFinite (d : Binary64) : Bool := d.exponentBits != 2047

/-- The whole number `m` of the magnitude `m * 2 ^ q`. -/
def significand (d : Binary64) : Nat :=
  if d.exponentBits = 0 then d.fractionBits else Nat.pow 2 52 + d.fractionBits

/-- The power of two `q` of the magnitude `m * 2 ^ q`. -/
def scale (d : Binary64) : Int :=
  if d.exponentBits = 0 then -1074 else (d.exponentBits : Int) - 1075

/-- Whether the gap to the next smaller magnitude is half the gap to the next larger one. -/
def atBinade (d : Binary64) : Bool := d.fractionBits == 0 && 1 < d.exponentBits

/-- The whole number that the double is, if it is one. -/
def toInt? (d : Binary64) : Option Int :=
  if ! d.isFinite then none
  else
    let size : Option Nat :=
      if 0 ≤ d.scale then some (d.significand * Nat.pow 2 d.scale.toNat)
      else
        let unit := Nat.pow 2 (-d.scale).toNat
        if d.significand % unit = 0 then some (d.significand / unit) else none
    size.map fun n => if d.negative then -(n : Int) else n

end Binary64

end CollectionRunner.Decimal
