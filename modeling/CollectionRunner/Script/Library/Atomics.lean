import CollectionRunner.Script.Library.Buffers

namespace CollectionRunner.Script.Library

open Exec

/-- The types whose elements can be changed in one step. -/
def atomicTypes : List ElementType :=
  [.int8, .uint8, .int16, .uint16, .int32, .uint32, .bigInt64, .bigUint64]

/-- The types whose elements can be waited for. -/
def waitableTypes : List ElementType := [.int32, .bigInt64]

/-- The element of a typed array that arguments tell. -/
def atomicPlace (types : List ElementType) (needsShared : Bool) (args : List Value) :
    Exec (TypedView × Nat) := do
  match nth args 0 with
  | .object r =>
    match ← kindOf r with
    | .typed t buffer offset length =>
      if ! types.contains t then typeError "integer TypedArray expected"
      let shared ← inspect buffer fun
        | .buffer _ shared => shared
        | _ => false
      if needsShared && ! shared then typeError "not a SharedArrayBuffer TypedArray"
      let i ← toIndex (nth args 1)
      if length ≤ i then rangeError "out-of-bound access"
      return (⟨r, t, buffer, offset, length⟩, i)
    | _ => typeError "integer TypedArray expected"
  | _ => typeError "integer TypedArray expected"

/-- A value as a whole number of the type. -/
def wholeValue (t : ElementType) (v : Value) : Exec Value := do
  if t.isBig then return .big (← toBig v) else return .number (← toInteger v)

/-- A method that puts in place of an element what comes of it and of a value, and gives the element
as it was. -/
def atomicMethod (name : String) (f : Nat → Nat → Nat) : Entry :=
  .method name 3 fun _ args => do
    let (view, i) ← atomicPlace atomicTypes false args
    let v ← elementValue view.type (nth args 2)
    let before ← get view.self (.index i)
    let bits := f (view.type.bitsOf before) (view.type.bitsOf v) %
      Nat.pow 2 (8 * view.type.width)
    setElement view.self i (if view.type.isBig then .big bits else .number (natFloat bits))
    return before

def compareExchange : Code := fun _ args => do
  let (view, i) ← atomicPlace atomicTypes false args
  let expected ← elementValue view.type (nth args 2)
  let v ← elementValue view.type (nth args 3)
  let before ← get view.self (.index i)
  if view.type.bitsOf expected = view.type.bitsOf before then setElement view.self i v
  return before

def atomics : Holder :=
  { name := "Atomics"
    entries := [
      atomicMethod "add" (· + ·),
      atomicMethod "and" Nat.land,
      atomicMethod "or" Nat.lor,
      atomicMethod "sub" fun a b => a + (Nat.pow 2 64 - b),
      atomicMethod "xor" Nat.xor,
      atomicMethod "exchange" fun _ b => b,
      .method "compareExchange" 4 compareExchange,
      .method "load" 2 fun _ args => do
        let (view, i) ← atomicPlace atomicTypes false args
        get view.self (.index i),
      .method "store" 3 fun _ args => do
        let (view, i) ← atomicPlace atomicTypes false args
        let v ← wholeValue view.type (nth args 2)
        setElement view.self i v
        return v,
      .method "isLockFree" 1 fun _ args => do
        let x ← toInteger (nth args 0)
        return .bool ([1, 2, 4, 8].any (natFloat · == x)),
      .method "wait" 4 fun _ args => do
        let (view, _) ← atomicPlace waitableTypes true args
        let _ ← elementValue view.type (nth args 2)
        let _ ← toNumber (nth args 3)
        typeError "cannot block in this thread",
      -- Nobody ever waits.
      .method "notify" 3 fun _ args => do
        let _ ← atomicPlace waitableTypes false args
        if ! (nth args 2).isUndefined then
          let _ ← toInteger (nth args 2)
        return .ofNat 0,
      .tag "Atomics"] }

end CollectionRunner.Script.Library
