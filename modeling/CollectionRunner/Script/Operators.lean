import CollectionRunner.Script.Update
import CollectionRunner.Script.Arithmetic

namespace CollectionRunner.Script.Exec

/-- Refuses a text that is too long for any script, or for this one's memory beside `others`. -/
def checkText (size : Nat) (others : Nat := 0) : Exec Unit := do
  if Nat.pow 2 30 ≤ size then rangeError "invalid string length"
  if ← read fun s => s.memoryLimit != 0 && s.memoryLimit < size + others then outOfMemory

/-- Puts two texts together; the longer they are, the more time that takes. -/
def concat (a b : Units) : Exec Value := do
  let size := a.size + b.size
  if 2048 < size then
    checkText size size
    forNumbers (fun _ => poll) 0 (size / 2048)
  return .text (a ++ b)

/-- Whether there is no memory for a number of so many bits. -/
def tooManyBits (bits : Nat) : Exec Bool := read fun s =>
  Nat.pow 2 33 ≤ bits || (s.memoryLimit != 0 && s.memoryLimit ≤ bits / 8)

def bigExponent (a b : Int) : Exec Value := do
  if b < 0 then rangeError "invalid operation"
  if a.natAbs ≤ 1 then return .big (Int.pow a (if b = 0 then 0 else 2 - b.toNat % 2))
  if ← tooManyBits (b.toNat * (Nat.log2 a.natAbs + 1)) then outOfMemory
  return .big (Int.pow a b.toNat)

def bigShift (a b : Int) : Exec Value := do
  if a = 0 then return .big 0
  if ← tooManyBits (b.toNat + Nat.log2 a.natAbs) then outOfMemory
  if (Nat.log2 a.natAbs : Int) < -b then return .big (if a < 0 then -1 else 0)
  return .big (Big.shiftLeft a b)

def bigArithmetic (op : BinaryOp) (a b : Int) : Exec Value := do
  match op with
  | .add => return .big (a + b)
  | .sub => return .big (a - b)
  | .mul => return .big (a * b)
  | .div => if b = 0 then rangeError "invalid operation" else return .big (Int.tdiv a b)
  | .rem => if b = 0 then rangeError "invalid operation" else return .big (Int.tmod a b)
  | .pow => bigExponent a b
  | .shiftLeft => bigShift a b
  | .shiftRight => bigShift a (-b)
  | .shiftRightUnsigned => typeError "BigInt operands are forbidden for >>>"
  | .bitAnd => return .big (Big.bitwise Nat.land a b)
  | .bitOr => return .big (Big.bitwise Nat.lor a b)
  | _ => return .big (Big.bitwise Nat.xor a b)

def floatArithmetic (op : BinaryOp) (a b : Float) : Float :=
  match op with
  | .add => a + b
  | .sub => a - b
  | .mul => a * b
  | .div => a / b
  | .rem => remainder a b
  | .pow => power a b
  | .shiftLeft =>
    intFloat (ElementType.signed 32 ((toUInt32 a <<< (toUInt32 b % 32)) % Nat.pow 2 32))
  | .shiftRight => intFloat (toInt32 a >>> (toUInt32 b % 32))
  | .shiftRightUnsigned => natFloat (toUInt32 a >>> (toUInt32 b % 32))
  | .bitAnd => intFloat (ElementType.signed 32 (toUInt32 a &&& toUInt32 b))
  | .bitOr => intFloat (ElementType.signed 32 (toUInt32 a ||| toUInt32 b))
  | _ => intFloat (ElementType.signed 32 (toUInt32 a ^^^ toUInt32 b))

def arithmetic (op : BinaryOp) (a b : Value) : Exec Value := do
  match a, b with
  | .number x, .number y => return .number (floatArithmetic op x y)
  | _, _ =>
    let a ← toNumeric a
    let b ← toNumeric b
    match a, b with
    | .number x, .number y => return .number (floatArithmetic op x y)
    | .big x, .big y => bigArithmetic op x y
    | _, _ =>
      if op = .shiftRightUnsigned then typeError "BigInt operands are forbidden for >>>"
      typeError "cannot convert to BigInt"

def add (a b : Value) : Exec Value := do
  match a, b with
  | .number x, .number y => return .number (x + y)
  | .text u, .text v => concat u v
  | _, _ =>
    let a ← toPrimitive .default a
    let b ← toPrimitive .default b
    match a, b with
    | .text u, _ => concat u (← primitiveText b)
    | _, .text v => concat (← primitiveText a) v
    | _, _ => arithmetic .add a b

def looselyEqual (a b : Value) : Exec Bool := do
  match a, b with
  | .undefined, .null | .null, .undefined => return true
  | .undefined, _ | .null, _ | _, .undefined | _, .null => return a.strictlyEqual b
  | .object _, .object _ => return a.same b
  | .object _, _ => primitives (← toPrimitive .default a) b
  | _, .object _ => primitives a (← toPrimitive .default b)
  | _, _ => primitives a b
where
  primitives (a b : Value) : Exec Bool := do
    match a, b with
    | .text _, .text _ | .symbol _, _ | _, .symbol _ => return a.strictlyEqual b
    | .big m, .big n => return m == n
    | .big n, .text u | .text u, .big n => return textInteger? u == some n
    | .big n, _ => return Big.compareFloat n (← primitiveNumber b) == some .eq
    | _, .big n => return Big.compareFloat n (← primitiveNumber a) == some .eq
    | .undefined, _ | .null, _ | _, .undefined | _, .null => return a.strictlyEqual b
    | _, _ => return (← primitiveNumber a) == (← primitiveNumber b)

/-- The order of two doubles; none with what is no number. -/
def compareFloats (x y : Float) : Option Ordering :=
  if x < y then some .lt else if x == y then some .eq else if x > y then some .gt else none

/-- The order of two values that are no objects. -/
def comparePrimitives (a b : Value) : Exec (Option Ordering) := do
  match a, b with
  | .text u, .text v => return some (u.order v)
  | .big m, .big n => return some (compare m n)
  | .big n, .text u => return (textInteger? u).map fun m => compare n m
  | .text u, .big n => return (textInteger? u).map fun m => compare m n
  | .big n, _ => return Big.compareFloat n (← primitiveNumber b)
  | _, .big n => return (Big.compareFloat n (← primitiveNumber a)).map Ordering.swap
  | _, _ =>
    let x ← primitiveNumber a
    let y ← primitiveNumber b
    return compareFloats x y

def ordering (a b : Value) : Exec (Option Ordering) := do
  match a, b with
  | .number x, .number y => return compareFloats x y
  | _, _ =>
    let a ← toPrimitive .number a
    let b ← toPrimitive .number b
    comparePrimitives a b

/-- Whether an object has the prototype that a function gives. -/
def hasInstance (v f : Value) : Exec Bool := do
  match ← bareFunction f with
  | .object r =>
    if ! (← isCallable (.object r)) then return false
    match v with
    | .object o =>
      match ← getNamed r "prototype" with
      | .object p => along proxyDepth p o
      | _ => typeError "operand 'prototype' property is not an object"
    | _ => return false
  | _ => return false
where
  /-- The function behind bound ones. -/
  bareFunction (f : Value) : Exec Value := do
    match f with
    | .object r =>
      match ← kindOf r with
      | .bound target .. => return .object target
      | _ => return f
    | _ => return f
  along : Nat → Ref → Ref → Exec Bool
    | 0, _, _ => return false
    | n + 1, p, o => do
      match ← prototypeOf o with
      | some q => if q == p then return true else along n p q
      | none => return false

def instanceOf (v f : Value) : Exec Bool := do
  match f with
  | .object _ =>
    match ← method? f KnownSymbol.hasInstance.key with
    | some m => return (← call m f [v]).truth
    | none =>
      if ← isCallable f then hasInstance v f
      else typeError "invalid 'instanceof' right operand"
  | _ => typeError "invalid 'instanceof' right operand"

def isIn (k o : Value) : Exec Bool := do
  match o with
  | .object r => has r (← toKey k)
  | _ => typeError "invalid 'in' operand"

def binary (op : BinaryOp) (a b : Value) : Exec Value := do
  match op with
  | .add => add a b
  | .less => return .bool ((← ordering a b) == some .lt)
  | .greater => return .bool ((← ordering a b) == some .gt)
  | .lessEq =>
    return .bool (match ← ordering a b with
      | some .lt | some .eq => true
      | _ => false)
  | .greaterEq =>
    return .bool (match ← ordering a b with
      | some .gt | some .eq => true
      | _ => false)
  | .equal => return .bool (← looselyEqual a b)
  | .notEqual => return .bool ! (← looselyEqual a b)
  | .same => return .bool (a.strictlyEqual b)
  | .notSame => return .bool ! (a.strictlyEqual b)
  | .instanceOf => return .bool (← instanceOf a b)
  | .isIn => return .bool (← isIn a b)
  | _ => arithmetic op a b

def negate (v : Value) : Exec Value := do
  match ← toNumeric v with
  | .big n => return .big (-n)
  | .number x => return .number (-x)
  | p => return p

def complement (v : Value) : Exec Value := do
  match ← toNumeric v with
  | .big n => return .big (-n - 1)
  | .number x => return .number (intFloat (-(toInt32 x) - 1))
  | p => return p

def unary (op : UnaryOp) (v : Value) : Exec Value := do
  match op with
  | .plus =>
    match ← toNumeric v with
    | .big _ => typeError "BigInt argument with unary +"
    | p => return p
  | .minus => negate v
  | .bitNot => complement v
  | .not => return .bool (! v.truth)
  | .typeOf => return .ofString (← read (v.typeName ·))
  | .discard => return .undefined

/-- The number after or before a number. -/
def stepped (up : Bool) : Value → Value
  | .big n => .big (if up then n + 1 else n - 1)
  | .number x => .number (if up then x + 1 else x - 1)
  | v => v

end CollectionRunner.Script.Exec
