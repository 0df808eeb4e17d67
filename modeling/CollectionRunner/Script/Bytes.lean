import CollectionRunner.Decimal.Nearest
import CollectionRunner.Script.Value

namespace CollectionRunner.Script.ElementType

def width : ElementType → Nat
  | .int8 | .uint8 | .uint8Clamped => 1
  | .int16 | .uint16 | .float16 => 2
  | .int32 | .uint32 | .float32 => 4
  | .bigInt64 | .bigUint64 | .float64 => 8

def isBig : ElementType → Bool
  | .bigInt64 | .bigUint64 => true
  | _ => false

def isSigned : ElementType → Bool
  | .int8 | .int16 | .int32 | .bigInt64 => true
  | _ => false

def name : ElementType → String
  | .int8 => "Int8Array"
  | .uint8 => "Uint8Array"
  | .uint8Clamped => "Uint8ClampedArray"
  | .int16 => "Int16Array"
  | .uint16 => "Uint16Array"
  | .int32 => "Int32Array"
  | .uint32 => "Uint32Array"
  | .bigInt64 => "BigInt64Array"
  | .bigUint64 => "BigUint64Array"
  | .float16 => "Float16Array"
  | .float32 => "Float32Array"
  | .float64 => "Float64Array"

/-- The number that some bytes are. -/
def natAt (bytes : Array UInt8) (start : Nat) : Nat → Nat
  | 0 => 0
  | n + 1 => natAt bytes start n + (bytes.getD (start + n) 0).toNat * Nat.pow 256 n

/-- Replaces some bytes by those of a number. -/
def putNat (bytes : Array UInt8) (start value : Nat) : Nat → Array UInt8
  | 0 => bytes
  | n + 1 =>
    (putNat bytes start value n).setIfInBounds (start + n) (value / Nat.pow 256 n % 256).toUInt8

def signed (bits : Nat) (n : Nat) : Int :=
  if n < Nat.pow 2 (bits - 1) then n else (n : Int) - Int.pow 2 bits

/-- The number of sixteen bits: a sign, five bits of the exponent and ten of the fraction. -/
def ofHalfBits (n : Nat) : Float :=
  let fraction := n % 1024
  let exponent := n / 1024 % 32
  let x :=
    if exponent = 31 then (if fraction = 0 then infinity else nan)
    else if exponent = 0 then (natFloat fraction).scaleB (-24)
    else (natFloat (1024 + fraction)).scaleB ((exponent : Int) - 25)
  if 32768 ≤ n then -x else x

/-- The sixteen bits of the nearest number that has so many. -/
def halfBits (x : Float) : Nat :=
  let y := (Decimal.toHalf x).abs
  let bits : Nat :=
    if y.isNaN then 0x7E00
    else if y.isInf then 0x7C00
    else
      let d := Decimal.Binary64.ofFloat y
      let top : Int := (Nat.log2 d.significand : Int) + d.scale
      if y == 0 || top < -14 then (y.scaleB 24).toUInt64.toNat
      else ((top + 15) * 1024).toNat + (y.scaleB (10 - top)).toUInt64.toNat - 1024
  if x.toBits >>> 63 == 1 then 32768 + bits else bits

/-- The element that begins at a byte. -/
def read (t : ElementType) (bytes : Array UInt8) (start : Nat) : Value :=
  let n := natAt bytes start t.width
  match t with
  | .float16 => .number (ofHalfBits n)
  | .float32 => .number (Float32.ofBits n.toUInt32).toFloat
  | .float64 => .number (Float.ofBits n.toUInt64)
  | _ =>
    let i := if t.isSigned then signed (8 * t.width) n else n
    if t.isBig then .big i else .number (intFloat i)

/-- The nearest whole number, the even one of two. -/
def roundEven (x : Float) : Float :=
  let low := x.floor
  if x - low < 0.5 then low
  else if x - low > 0.5 then low + 1
  else if (low / 2).floor * 2 == low then low
  else low + 1

/-- The bits of an element of a value. -/
def bitsOf (t : ElementType) : Value → Nat
  | .number x =>
    match t with
    | .float16 => halfBits x
    | .float32 => x.toFloat32.toBits.toNat
    | .float64 => x.toBits.toNat
    | .uint8Clamped =>
      if x > 0 then (if x < 255 then roundEven x else 255).toUInt8.toNat else 0
    | _ => (truncated x % Int.pow 2 (8 * t.width)).toNat
  | .big n => (n % Int.pow 2 (8 * t.width)).toNat
  | _ => 0

def write (t : ElementType) (bytes : Array UInt8) (start : Nat) (v : Value) : Array UInt8 :=
  putNat bytes start (t.bitsOf v) t.width

end CollectionRunner.Script.ElementType
