import CollectionRunner.Script.Elementary
import CollectionRunner.Script.Library.Entry

namespace CollectionRunner.Script.Library

open Exec

def thisNumber (this : Value) : Exec Float := do
  match this with
  | .number x => return x
  | .object r =>
    match ← kindOf r with
    | .boxed (.number x) => return x
    | _ => typeError "not a number"
  | _ => typeError "not a number"

/-- A base that digits are written in; ten if none is given. -/
def radixOf (v : Value) : Exec Nat := do
  if v.isUndefined then return 10
  let x ← toInteger v
  if x < 2 || 36 < x then rangeError "toString() radix argument must be between 2 and 36"
  return clampNat x 36

/-- The number of digits that a method is told to write; `what` is told of a wrong one. -/
def digitsOf (what : String) (least : Nat) (x : Float) : Exec Nat := do
  if x < natFloat least || 100 < x then
    rangeError (what ++ " must be between " ++ toString least ++ " and 100")
  return clampNat x 100

def numericFrom (args : List Value) : Exec Float := do
  match args with
  | [] => return 0
  | v :: _ =>
    match ← toNumeric v with
    | .big n => return intFloat n
    | .number x => return x
    | _ => return nan

def mostSafe : Float := 9007199254740991

def isWhole (v : Value) : Bool :=
  match v with
  | .number x => ! x.isInf && x.floor == x
  | _ => false

def numberConstructor : Constructor :=
  { name := "Number", length := 1, prototype := some .numberPrototype
    call := fun args => do return .number (← numericFrom args)
    construct := fun args newTarget => do
      let x ← numericFrom args
      let p ← prototypeFor newTarget .numberPrototype
      return .object (← newObject { prototype := some p, kind := .boxed (.number x) })
    own := [
      .borrowed .global "parseInt", .borrowed .global "parseFloat",
      .method "isNaN" 1 fun _ args => do
        match nth args 0 with
        | .number x => return .bool x.isNaN
        | _ => return .bool false,
      .method "isFinite" 1 fun _ args => do
        match nth args 0 with
        | .number x => return .bool ! (x.isNaN || x.isInf)
        | _ => return .bool false,
      .method "isInteger" 1 fun _ args => return .bool (isWhole (nth args 0)),
      .method "isSafeInteger" 1 fun _ args => do
        match nth args 0 with
        | .number x => return .bool (isWhole (.number x) && x.abs ≤ mostSafe)
        | _ => return .bool false,
      .constant "MAX_VALUE" (.number 1.7976931348623157e308),
      .constant "MIN_VALUE" (.number (Float.ofBits 1)),
      .constant "NaN" (.number nan),
      .constant "NEGATIVE_INFINITY" (.number (-infinity)),
      .constant "POSITIVE_INFINITY" (.number infinity),
      .constant "EPSILON" (.number 2.220446049250313e-16),
      .constant "MAX_SAFE_INTEGER" (.number mostSafe),
      .constant "MIN_SAFE_INTEGER" (.number (-mostSafe))]
    methods := [
      .method "toExponential" 1 fun this args => do
        let x ← thisNumber this
        let n ← toInteger (nth args 0)
        if x.isNaN || x.isInf then return .ofString (numberText x)
        if (nth args 0).isUndefined then return .ofString (shortestExponentText x)
        return .ofString (exponentText x (← digitsOf "toExponential() argument" 0 n)),
      .method "toFixed" 1 fun this args => do
        let x ← thisNumber this
        let n ← digitsOf "toFixed() digits argument" 0 (← toInteger (nth args 0))
        if x.isNaN || x.isInf || 1e21 ≤ x.abs then return .ofString (numberText x)
        return .ofString (fixedText x n),
      .method "toPrecision" 1 fun this args => do
        let x ← thisNumber this
        if (nth args 0).isUndefined then return .ofString (numberText x)
        let n ← toInteger (nth args 0)
        if x.isNaN || x.isInf then return .ofString (numberText x)
        return .ofString (precisionText x (← digitsOf "toPrecision() argument" 1 n)),
      .method "toString" 1 fun this args => do
        let x ← thisNumber this
        let base ← radixOf (nth args 0)
        if base = 10 then return .ofString (numberText x)
        return .ofString (radixText base x),
      .method "toLocaleString" 0 fun this _ => do return .ofString (numberText (← thisNumber this)),
      .method "valueOf" 0 fun this _ => do return .number (← thisNumber this)] }

def thisBig (this : Value) : Exec Int := do
  match this with
  | .big n => return n
  | .object r =>
    match ← kindOf r with
    | .boxed (.big n) => return n
    | _ => typeError "not a BigInt"
  | _ => typeError "not a BigInt"

def bigFrom (v : Value) : Exec Int := do
  match ← toPrimitive .number v with
  | .number x =>
    match wholeNumber? x with
    | some n => return n
    | none =>
      if x.isNaN || x.isInf then rangeError "cannot convert NaN or Infinity to BigInt"
      rangeError "cannot convert to BigInt: not an integer"
  | p => toBig p

/-- The lowest bits of a big integer; there are none if there is no memory for that many. -/
def lowBits (args : List Value) : Exec (Nat × Nat) := do
  let bits ← toIndex (nth args 0)
  let n ← toBig (nth args 1)
  if ← tooManyBits bits then return (0, 0)
  return (bits, (n % Int.pow 2 bits).toNat)

def bigintConstructor : Constructor :=
  { name := "BigInt", length := 1, prototype := some .bigintPrototype
    call := fun args => do return .big (← bigFrom (nth args 0))
    construct := notConstructor
    own := [
      .method "asUintN" 2 fun _ args => do
        let (_, n) ← lowBits args
        return .big n,
      .method "asIntN" 2 fun _ args => do
        let (bits, n) ← lowBits args
        return .big (if bits = 0 then 0 else ElementType.signed bits n)]
    methods := [
      .method "toString" 0 fun this args => do
        let n ← thisBig this
        return .ofString (intInRadix (← radixOf (nth args 0)) n),
      .method "toLocaleString" 0 fun this _ => do return .ofString (toString (← thisBig this)),
      .method "valueOf" 0 fun this _ => do return .big (← thisBig this),
      .tag "BigInt"] }

def floatMethod (name : String) (f : Float → Float) : Entry :=
  .method name 1 fun _ args => do return .number (f (← toNumber (nth args 0)))

/-- The nearest whole number; a half goes up. -/
def roundUp (x : Float) : Float :=
  if x.isNaN || x.isInf || x == x.floor then x
  else if -0.5 ≤ x && x < 0 then -0.0
  else
    let low := x.floor
    if x - low < 0.5 then low else low + 1

def isNegativeZero (x : Float) : Bool := x == 0 && x.toBits != 0

/-- The greater of two numbers, zero above minus zero. -/
def larger (x y : Float) : Float :=
  if x.isNaN || y.isNaN then nan
  else if x == 0 && y == 0 then (if isNegativeZero x then y else x)
  else if x < y then y else x

def smaller (x y : Float) : Float :=
  if x.isNaN || y.isNaN then nan
  else if x == 0 && y == 0 then (if isNegativeZero x then x else y)
  else if x > y then y else x

def folded (start : Float) (f : Float → Float → Float) : Code := fun _ args => do
  let xs ← mapEach toNumber args []
  return .number (xs.foldl f start)

/-- The next state of the random numbers. -/
def nextSeed (x : UInt64) : UInt64 :=
  let x := x ^^^ (x >>> 12)
  let x := x ^^^ (x <<< 25)
  x ^^^ (x >>> 27)

/-- The sum of the numbers that an iterable gives, rounded once. -/
def sumOf (values : Value) : Exec Value := do
  let i ← iterate? values
  let xs ← iterate [] fun xs => do
    match ← nextValue i with
    | none => return .ok xs
    | some (.number x) => return .error (x :: xs)
    | some _ => recover (typeError "not a number") (closeAfter i)
  let up := xs.any (· == infinity)
  let down := xs.any (· == -infinity)
  if xs.any (·.isNaN) || (up && down) then return .number nan
  if up || down then return .number (if up then infinity else -infinity)
  if xs.all isNegativeZero then return .number (-0.0)
  return .number (Elementary.sum xs)

def math : Holder :=
  { name := "Math"
    entries := [
      .method "min" 2 (folded infinity smaller),
      .method "max" 2 (folded (-infinity) larger),
      floatMethod "abs" Float.abs, floatMethod "floor" Float.floor, floatMethod "ceil" Float.ceil,
      floatMethod "round" roundUp, floatMethod "sqrt" Float.sqrt, floatMethod "acos" Float.acos,
      floatMethod "asin" Float.asin, floatMethod "atan" Float.atan,
      .method "atan2" 2 fun _ args => do
        let y ← toNumber (nth args 0)
        let x ← toNumber (nth args 1)
        return .number (Float.atan2 y x),
      floatMethod "cos" Float.cos, floatMethod "exp" Float.exp, floatMethod "log" Float.log,
      .method "pow" 2 fun _ args => do
        let x ← toNumber (nth args 0)
        let y ← toNumber (nth args 1)
        return .number (power x y),
      floatMethod "sin" Float.sin, floatMethod "tan" Float.tan, floatMethod "trunc" cutOff,
      floatMethod "sign" fun x => if x > 0 then 1 else if x < 0 then -1 else x,
      floatMethod "cosh" Float.cosh, floatMethod "sinh" Float.sinh, floatMethod "tanh" Float.tanh,
      floatMethod "acosh" Float.acosh, floatMethod "asinh" Float.asinh,
      floatMethod "atanh" Float.atanh, floatMethod "expm1" Elementary.expMinusOne,
      floatMethod "log1p" Elementary.logOnePlus, floatMethod "log2" Float.log2,
      floatMethod "log10" Float.log10, floatMethod "cbrt" Elementary.cubeRoot,
      .method "hypot" 2 fun _ args => do
        match ← mapEach toNumber args [] with
        | [] => return .number 0
        | x :: rest => return .number (rest.foldl Elementary.hypotenuse x.abs),
      .method "random" 0 fun _ _ => do
        let x ← modifyGet fun s => (s.seed, { s with seed := nextSeed s.seed })
        return .number ((x >>> 11).toFloat / 9007199254740992),
      floatMethod "f16round" Decimal.toHalf,
      floatMethod "fround" fun x => x.toFloat32.toFloat,
      .method "imul" 2 fun _ args => do
        let x ← toNumber (nth args 0)
        let y ← toNumber (nth args 1)
        return .ofInt (ElementType.signed 32 (toUInt32 x * toUInt32 y % Nat.pow 2 32)),
      floatMethod "clz32" fun x =>
        let n := toUInt32 x
        if n = 0 then 32 else natFloat (31 - Nat.log2 n),
      .method "sumPrecise" 1 fun _ args => sumOf (nth args 0),
      .tag "Math",
      .constant "E" (.number 2.718281828459045),
      .constant "LN10" (.number 2.302585092994046),
      .constant "LN2" (.number 0.6931471805599453),
      .constant "LOG2E" (.number 1.4426950408889634),
      .constant "LOG10E" (.number 0.4342944819032518),
      .constant "PI" (.number 3.141592653589793),
      .constant "SQRT1_2" (.number 0.7071067811865476),
      .constant "SQRT2" (.number 1.4142135623730951)] }

end CollectionRunner.Script.Library
