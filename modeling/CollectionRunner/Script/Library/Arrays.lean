import CollectionRunner.Script.Library.Entry

namespace CollectionRunner.Script.Library

open Exec

/-- An element, unless it is missing. -/
def element? (r : Ref) (i : Nat) : Exec (Option Value) := do
  let k := Key.ofNat i
  match ← read (·.search r k) with
  | .missing => return none
  | .found { slot := .data v _, .. } _ => return some v
  | _ => if ← has r k then return some (← get r k) else return none

/-- An element; one that is missing is undefined. -/
def elementAt (r : Ref) (i : Nat) : Exec Value := get r (.ofNat i)

def putElement (r : Ref) (i : Nat) (v : Value) : Exec Unit := set r (.ofNat i) v

def dropElement (r : Ref) (i : Nat) : Exec Unit := do ensure (← deleteOwn r (.ofNat i))

/-- The first result that a computation gives for the numbers from `i` on. -/
def firstOf {α : Type} (n i : Nat) (test : Nat → Exec (Option α)) : Exec (Option α) :=
  iterate i fun i => do
    if n ≤ i then return .ok none
    match ← test i with
    | some a => return .ok (some a)
    | none => return .error (i + 1)

/-- The last result that a computation gives for the numbers below `n`. -/
def lastOf {α : Type} (n : Nat) (test : Nat → Exec (Option α)) : Exec (Option α) :=
  iterate n fun
    | 0 => return .ok none
    | i + 1 => do
      match ← test i with
      | some a => return .ok (some a)
      | none => return .error i

def setLength (r : Ref) (n : Nat) : Exec Unit := set r lengthKey (.ofNat n)

/-- An array with some elements missing. -/
def holedArray (values : List (Option Value)) : Exec Value := do
  let row := values.toArray
  if ← read (·.exceeds row.size) then outOfMemory
  let r ← newObject
    { prototype := some Intrinsic.arrayPrototype.ref, kind := .array row row.size true }
  return .object r

/-- An array of a length that a number says. -/
def arrayOfLength (prototype : Ref) (x : Float) : Exec Value := do
  match setArrayLength.arrayLength? x with
  | none => rangeError "invalid array length"
  | some n =>
    return .object (← newObject { prototype := some prototype, kind := .array #[] n true })

/-- The constructor that an array asks for, if it is not the usual one. -/
def speciesOf (r : Ref) : Exec (Option Value) := do
  if ! (← isArray (.object r)) then return none
  let c ← getNamed r "constructor"
  let c ←
    match c with
    | .object q =>
      let species ← get q KnownSymbol.species.key
      pure (if species.isNullish then Value.undefined else species)
    | _ => pure c
  if c.isUndefined || c.same (.object Intrinsic.arrayConstructor.ref) then return none
  return some c

/-- What a method fills, if its array asks for something of its own. -/
def speciesFor (r : Ref) (length : Nat) : Exec (Option Ref) := do
  match ← speciesOf r with
  | none =>
    if 4294967295 < length then rangeError "invalid array length"
    return none
  | some c =>
    match ← construct c [.ofNat length] c with
    | .object o => return some o
    | _ => typeError "not an object"

/-- Fills an element of what a method makes. -/
def fillElement (made : Option Ref) (i : Nat) (v : Value) : Exec Unit := do
  match made with
  | some o => defineValue o (.ofNat i) v
  | none => return ()

/-- What a method has made of some elements. -/
def madeOf (made : Option Ref) (values : List (Option Value)) : Exec Value := do
  match made with
  | some o => return .object o
  | none => holedArray values

/-- As `madeOf`, with the length set as well. -/
def madeWithLength (made : Option Ref) (values : List (Option Value)) : Exec Value := do
  match made with
  | some o =>
    setLength o values.length
    return .object o
  | none => holedArray values

def tooLong {α : Type} : Exec α := typeError "Array loo long"

def putAll (r : Ref) (first : Nat) (values : List Value) : Exec Unit :=
  forEach (fun (i, v) => putElement r (first + i) v) (values.mapIdx fun i v => (i, v))

def pushAll (r : Ref) (values : List Value) : Exec Nat := do
  let n ← lengthOf r
  let total := n + values.length
  if mostLength < total then tooLong
  putAll r n values
  match ← inspect r Kind.length? with
  | some (length, true) => if length != total then setLength r total
  | _ => setLength r total
  return total

def popLast (r : Ref) : Exec Value := do
  let n ← lengthOf r
  if n = 0 then
    setLength r 0
    return .undefined
  let v ← elementAt r (n - 1)
  dropElement r (n - 1)
  setLength r (n - 1)
  return v

/-- Moves an element, or the lack of one, to another place. -/
def moveElement (r : Ref) (source target : Nat) : Exec Unit := do
  match ← element? r source with
  | some v => putElement r target v
  | none => dropElement r target

/-- Moves elements to other places, the first ones first or the last ones first. -/
def moveElements (r : Ref) (target source count : Nat) (forward : Bool) : Exec Unit :=
  forNumbers
    (fun i =>
      let j := if forward then i else count - 1 - i
      moveElement r (source + j) (target + j))
    0 count

def shiftFirst (r : Ref) : Exec Value := do
  let n ← lengthOf r
  if n = 0 then
    setLength r 0
    return .undefined
  let v ← elementAt r 0
  moveElements r 0 1 (n - 1) true
  dropElement r (n - 1)
  setLength r (n - 1)
  return v

/-- Puts elements in front. -/
def unshiftAll (r : Ref) (values : List Value) : Exec Nat := do
  let n ← lengthOf r
  let count := values.length
  if mostLength < n + count then tooLong
  if 0 < count then
    moveElements r count 0 n false
    putAll r 0 values
  setLength r (n + count)
  return n + count

/-- The elements from one place up to another, with those that are missing. -/
def portion (r : Ref) (first last : Nat) : Exec (List (Option Value)) :=
  mapEach (element? r) ((List.range (last - first)).map (· + first)) []

/-- The elements from one place up to another as a method makes something of them. -/
def takenOut (r : Ref) (first count : Nat) : Exec Value := do
  let made ← speciesFor r count
  let values ← mapEach
    (fun i => do
      let v ← element? r (first + i)
      match v with
      | some v => fillElement made i v
      | none => pure ()
      return v)
    (List.range count) []
  madeWithLength made values

/-- Replaces `skipped` elements from a place on by others, and gives those taken out. -/
def spliceAt (r : Ref) (n first skipped : Nat) (values : List Value) : Exec Value := do
  let count := values.length
  let total := n + count - skipped
  if mostLength < total then tooLong
  let out ← takenOut r first skipped
  if count != skipped then
    moveElements r (first + count) (first + skipped) (n - (first + skipped)) (count ≤ skipped)
    forNumbers (fun i => dropElement r (n - 1 - i)) 0 (n - total)
  putAll r first values
  setLength r total
  return out

/-- How many elements a method takes out: all the rest if it is not told. -/
def skippedOf (args : List Value) (n first : Nat) : Exec Nat := do
  match args with
  | [] => return 0
  | [_] => return n - first
  | _ => return clampNat (← toInteger (nth args 1)) (n - first)

def elementText (v : Value) : Exec Units := if v.isNullish then return #[] else toUnits v

def joinTexts (separator : Units) : List Units → Units
  | [] => #[]
  | u :: rest => rest.foldl (fun d v => d ++ separator ++ v) u

def joinElements (r : Ref) (n : Nat) (separator : Units) : Exec Value := do
  let texts ← mapEach (fun i => do elementText (← elementAt r i)) (List.range n) []
  checkText ((texts.map Array.size).foldl (· + ·) 0 + separator.size * n)
  return .text (joinTexts separator texts)

/-- Turns an array around from both ends, `count` pairs of places. -/
def reverseElements (r : Ref) (n : Nat) : Exec Unit :=
  forNumbers
    (fun i => do
      let j := n - 1 - i
      let low ← element? r i
      let high ← element? r j
      match low, high with
      | some a, some b =>
        putElement r i b
        putElement r j a
      | none, some b =>
        putElement r i b
        dropElement r j
      | some a, none =>
        dropElement r i
        putElement r j a
      | none, none => return ())
    0 (n / 2)

/-- The order of two elements of a row. -/
abbrev Compare (α : Type) := α → α → Exec Ordering

section

variable {α : Type} [Inhabited α]

def swapped (row : Array α) (i j : Nat) : Array α := row.swapIfInBounds i j

/-- Swaps `count` elements from two places on. -/
def swapSpans (row : Array α) (i j : Nat) : Nat → Array α
  | 0 => row
  | count + 1 => swapSpans (swapped row i j) (i + 1) (j + 1) count

/-- The place of the middle one of three elements. -/
def middleOf (compare : Compare α) (row : Array α) (i j k : Nat) : Exec Nat := do
  let order (i j : Nat) : Exec Ordering := compare (row.getD i default) (row.getD j default)
  if (← order i j) == .lt then
    if (← order j k) == .lt then return j
    if (← order i k) == .lt then return k
    return i
  else
    if (← order j k) == .gt then return j
    if (← order i k) == .lt then return i
    return k

/-- How far a part of a row has been divided: places of elements like the first one at both ends,
and of what has been compared from both ends. -/
structure Division (α : Type) where
  row : Array α
  same : Nat
  low : Nat
  sameEnd : Nat
  high : Nat
  deriving Inhabited

/-- Goes on from the start while elements are not greater than the first one. -/
def advanceLow (compare : Compare α) (first : Nat) (d : Division α) : Exec (Division α) :=
  iterate d fun d => do
    if d.high ≤ d.low then return .ok d
    match ← compare (d.row.getD first default) (d.row.getD d.low default) with
    | .lt => return .ok d
    | .eq =>
      return .error
        { d with row := swapped d.row d.same d.low, same := d.same + 1, low := d.low + 1 }
    | .gt => return .error { d with low := d.low + 1 }

/-- Goes back from the end while elements are not less than the first one. -/
def retreatHigh (compare : Compare α) (first : Nat) (d : Division α) : Exec (Division α) :=
  iterate d fun d => do
    let d := { d with high := d.high - 1 }
    if d.high ≤ d.low then return .ok d
    match ← compare (d.row.getD first default) (d.row.getD d.high default) with
    | .gt => return .ok d
    | .eq =>
      return .error
        { d with row := swapped d.row (d.sameEnd - 1) d.high, sameEnd := d.sameEnd - 1 }
    | .lt => return .error d

/-- Divides a part of a row around its middle element: the row, and where the elements that are less
end and those that are greater begin. -/
def divide (compare : Compare α) (row : Array α) (first count : Nat) :
    Exec (Array α × Nat × Nat) := do
  let quarter := count / 4
  let m ← middleOf compare row (first + quarter) (first + 2 * quarter) (first + 3 * quarter)
  let top := first + count
  let start : Division α :=
    { row := swapped row first m, same := first + 1, low := first + 1, sameEnd := top, high := top }
  let d ← iterate start fun d => do
    let d ← advanceLow compare first d
    let d ← retreatHigh compare first d
    if d.high ≤ d.low then return .ok d
    return .error { d with row := swapped d.row d.low d.high, low := d.low + 1 }
  let less := d.low - d.same
  let greater := d.sameEnd - d.low
  let span := min (d.same - first) less
  let row := swapSpans d.row first (d.low - span) span
  let span := min (top - d.sameEnd) greater
  let row := swapSpans row d.low (top - span) span
  return (row, less, greater)

/-- Moves an element back over those that are greater. -/
def insertBack (compare : Compare α) (first : Nat) (row : Array α) (i : Nat) : Exec (Array α) :=
  iterate (row, i) fun (row, i) => do
    if i ≤ first then return .ok row
    match ← compare (row.getD (i - 1) default) (row.getD i default) with
    | .gt => return .error (swapped row i (i - 1), i - 1)
    | _ => return .ok row

def insertAll (compare : Compare α) (row : Array α) (first count : Nat) : Exec (Array α) :=
  iterate (row, first + 1) fun (row, i) => do
    if first + count ≤ i then return .ok row
    return .error (← insertBack compare first row i, i + 1)

/-- Sorts the parts of a row that are left to sort: of two parts the smaller one comes first. -/
def sortParts (compare : Compare α) (row : Array α) (count : Nat) : Exec (Array α) :=
  iterate (row, [(0, count)]) fun
    | (row, []) => return .ok row
    | (row, (first, count) :: rest) => do
      if count ≤ 6 then return .error (← insertAll compare row first count, rest)
      let (row, less, greater) ← divide compare row first count
      let low := (first, less)
      let high := (first + count - greater, greater)
      return .error (row, if greater < less then high :: low :: rest else low :: high :: rest)

end

/-- An element to be sorted, with its text if that counts, and its place before. -/
structure Sortable where
  value : Value
  text : Units := #[]
  place : Nat
  deriving Inhabited

/-- The order by a function, or by texts without one; of equal elements the earlier one comes
first. -/
def sortableOrder (f : Option Value) (a b : Sortable) : Exec Ordering := do
  let places := compare a.place b.place
  match f with
  | some f =>
    if a.value.same b.value then return places
    let x ← toNumber (← call f .undefined [a.value, b.value])
    return if x > 0 then .gt else if x < 0 then .lt else places
  | none => return (a.text.order b.text).then places

def comparatorOf (v : Value) : Exec (Option Value) := do
  if v.isUndefined then return none
  return some (← callback v)

/-- Sorts values, each with the place that it had. -/
def sortPlaced (f : Option Value) (values : List (Nat × Value)) : Exec (List (Nat × Value)) := do
  if values.length < 2 then return values
  let row ← mapEach
    (fun (place, value) => do
      match f with
      | some _ => return ({ value, place } : Sortable)
      | none => return { value, text := ← toUnits value, place })
    values []
  let sorted ← sortParts (sortableOrder f) row.toArray row.length
  return sorted.toList.map fun x => (x.place, x.value)

/-- Sorts values; those that are undefined come last. -/
def sortValues (f : Option Value) (vs : List Value) : Exec (List Value) := do
  let (last, vs) := vs.partition (·.isUndefined)
  let sorted ← sortPlaced f (vs.mapIdx fun i v => (i, v))
  return sorted.map (·.2) ++ last

/-- Sorts the elements of an object. An element that is in its place is not set again. -/
def sortElements (r : Ref) (f : Option Value) : Exec Unit := do
  let n ← lengthOf r
  let found := (((← portion r 0 n).mapIdx fun i v => (i, v))).filterMap fun (i, v) => v.map (i, ·)
  let undefinedCount := (found.filter (·.2.isUndefined)).length
  let sorted ← sortPlaced f (found.filter (! ·.2.isUndefined))
  forEach
    (fun (i, place, v) => if i = place then return () else putElement r i v)
    (sorted.mapIdx fun i (place, v) => (i, place, v))
  let count := sorted.length
  forNumbers (fun i => putElement r i .undefined) count undefinedCount
  forNumbers (dropElement r) (count + undefinedCount) (n - count - undefinedCount)

/-- What is made of nested arrays: what is filled, and the elements so far in reverse. -/
abbrev Flat := Nat × List (Option Value)

/-- Adds an element. -/
def addFlat (made : Option Ref) (v : Value) : Flat → Exec Flat
  | (i, done) => do
    fillElement made i v
    return (i + 1, some v :: done)

def flattenFrom (made : Option Ref) : Nat → Nat → Ref → Nat → (Nat → Value → Exec Value) → Flat →
    Exec Flat
  | 0, _, _, _, _, _ => stackOverflow
  | fuel + 1, depth, r, n, f, done => do
    iterate (0, done) fun (i, done) => do
      if n ≤ i then return .ok done
      match ← element? r i with
      | none => return .error (i + 1, done)
      | some v =>
        let v ← f i v
        match v with
        | .object q =>
          if ← pure (decide (0 < depth)) <&&> isArray v then
            let length ← lengthOf q
            let inner ← flattenFrom made fuel (depth - 1) q length (fun _ v => return v) done
            return .error (i + 1, inner)
          return .error (i + 1, ← addFlat made v done)
        | _ => return .error (i + 1, ← addFlat made v done)

def flatten (r : Ref) (n depth : Nat) (f : Nat → Value → Exec Value) : Exec Value := do
  let made ← speciesFor r 0
  let (_, done) ← flattenFrom made 4000 depth r n f (0, [])
  madeOf made done.reverse

def isSpreadable (v : Value) : Exec Bool := do
  match v with
  | .object r =>
    match ← get r KnownSymbol.isConcatSpreadable.key with
    | .undefined => isArray v
    | s => return s.truth
  | _ => return false

def concatAll (r : Ref) (parts : List Value) : Exec Value := do
  let made ← speciesFor r 0
  let (_, lists) ← iterate (parts, 0, ([] : List (List (Option Value)))) fun (parts, n, done) => do
    match parts with
    | [] => return .ok (n, done)
    | v :: rest =>
      match v, ← isSpreadable v with
      | .object q, true =>
        let length ← lengthOf q
        if mostLength < n + length then tooLong
        let values ← mapEach
          (fun i => do
            let v ← element? q i
            match v with
            | some v => fillElement made (n + i) v
            | none => pure ()
            return v)
          (List.range length) []
        return .error (rest, n + length, values :: done)
      | _, _ =>
        if mostLength ≤ n then tooLong
        fillElement made n v
        return .error (rest, n + 1, [some v] :: done)
  madeWithLength made lists.reverse.flatten

def newIterator (prototype : Intrinsic) (kind : Kind) : Exec Value := do
  return .object (← newObject { prototype := some prototype.ref, kind })

def elementsOf (p : Portion) : Code := onObject fun r _ =>
  newIterator .arrayIteratorPrototype (.elementIterator (.object r) 0 p)

/-- The next element of an iterator over elements. -/
def nextElement (this : Value) (_ : List Value) : Exec Value := do
  match this with
  | .object it =>
    match ← kindOf it with
    | .elementIterator (.object r) i p =>
      let n ← match ← kindOf r with
        | .typed _ _ _ length => pure length
        | _ => lengthOf r
      if i < n then
        modify (·.modifyObj it fun o => { o with kind := .elementIterator (.object r) (i + 1) p })
        match p with
        | .keys => iteratorResult (.ofNat i) false
        | .values => iteratorResult (← get r (.index i)) false
        | .entries =>
          let v ← get r (.index i)
          iteratorResult (← newArray [.ofNat i, v]) false
      else
        modify (·.modifyObj it fun o => { o with kind := .elementIterator .undefined 0 p })
        iteratorResult .undefined true
    | .elementIterator .. => iteratorResult .undefined true
    | _ => typeError "Array Iterator object expected"
  | _ => typeError "Array Iterator object expected"

/-- Runs a callback for each element that is there. -/
def visit (r : Ref) (n : Nat) (f : Value) (args : List Value)
    (step : Value → Nat → Exec Value → Exec (Option Value)) : Exec (Option Value) :=
  firstOf n 0 fun i => do
    match ← element? r i with
    | none => return none
    | some v => step v i (call f (nth args 1) [v, .ofNat i, .object r])

/-- The length of an object and the callback of a method. -/
def lengthAndCallback (r : Ref) (args : List Value) : Exec (Nat × Value) := do
  let n ← lengthOf r
  return (n, ← callback (nth args 0))

/-- What a function makes of the elements one after another, from the `i`-th of their places on. -/
def reduceFrom (f : Value) (r : Ref) (n : Nat) (place : Nat → Nat) (i : Nat) (acc : Value) :
    Exec Value :=
  iterate (i, acc) fun (i, acc) => do
    if n ≤ i then return .ok acc
    match ← element? r (place i) with
    | none => return .error (i + 1, acc)
    | some v =>
      return .error (i + 1, ← call f .undefined [acc, v, .ofNat (place i), .object r])

def reduceElements (r : Ref) (args : List Value) (backwards : Bool) : Exec Value := do
  let (n, f) ← lengthAndCallback r args
  let place (i : Nat) : Nat := if backwards then n - 1 - i else i
  match args with
  | _ :: start :: _ => reduceFrom f r n place 0 start
  | _ =>
    let first ← firstOf n 0 fun i => do return (← element? r (place i)).map (i, ·)
    match first with
    | some (i, v) => reduceFrom f r n place (i + 1) v
    | none => typeError "empty array"

/-- The first or last element, or its place, for which a callback says yes. -/
def search (r : Ref) (args : List Value) (backwards : Bool) : Exec (Option (Nat × Value)) := do
  let (n, f) ← lengthAndCallback r args
  let test (i : Nat) : Exec (Option (Nat × Value)) := do
    let v ← elementAt r i
    if (← call f (nth args 1) [v, .ofNat i, .object r]).truth then return some (i, v)
    return none
  if backwards then lastOf n test else firstOf n 0 test

def valueOrUndefined (found : Option (Nat × Value)) : Value :=
  (found.map (·.2)).getD .undefined

def placeOrNone (found : Option (Nat × Value)) : Value :=
  match found with
  | some (i, _) => .ofNat i
  | none => .number (-1)

/-- The place that a number tells, counted from the end if it is negative. -/
def placeIn (v : Value) (n : Nat) : Exec (Option Nat) := do
  let x ← toInteger v
  let x := if x < 0 then natFloat n + x else x
  return if x < 0 || natFloat n ≤ x then none else some (clampNat x n)

def constructArray (args : List Value) (newTarget : Value) : Exec Value := do
  let p ← prototypeFor newTarget .arrayPrototype
  match args with
  | [.number x] => arrayOfLength p x
  | _ =>
    let row := args.toArray.map some
    return .object (← newObject { prototype := some p, kind := .array row row.size true })

/-- What a static method fills: something of the constructor that it is called on, unless that makes
usual arrays. -/
def targetFor (this : Value) (args : List Value) : Exec (Option Ref) := do
  if ! (← isConstructor this) || this.same (.object Intrinsic.arrayConstructor.ref) then
    match args with
    | [.number x] => if 4294967295 < x then rangeError "invalid array length"
    | _ => pure ()
    return none
  match ← construct this args this with
  | .object r => return some r
  | _ => typeError "not an object"

def arrayFrom (this : Value) (args : List Value) : Exec Value := do
  let source := nth args 0
  let f ← comparatorOf (nth args 1)
  let mapped (i : Nat) (v : Value) : Exec Value :=
    match f with
    | some f => call f (nth args 2) [v, .ofNat i]
    | none => return v
  let iterates ← getOf source KnownSymbol.iterator.key
  if ! iterates.isNullish then
    if ! (← isCallable iterates) then typeError "value is not iterable"
    let made ← targetFor this []
    let i ← iterate? source
    let values ← iterate (0, ([] : List (Option Value))) fun (n, done) => do
      match ← nextValue i with
      | none => return .ok done.reverse
      | some v =>
        let v ← recover
          (do
            let v ← mapped n v
            fillElement made n v
            return v)
          (closeAfter i)
        return .error (n + 1, some v :: done)
    madeWithLength made values
  else
    let r ← toObject source
    let n ← lengthOf r
    let made ← targetFor this [.ofNat n]
    let values ← mapEach
      (fun i => do
        let v ← mapped i (← elementAt r i)
        fillElement made i v
        return some v)
      (List.range n) []
    madeWithLength made values

def arrayOf (this : Value) (args : List Value) : Exec Value := do
  let made ← targetFor this [.ofNat args.length]
  forEach (fun (i, v) => fillElement made i v) (args.mapIdx fun i v => (i, v))
  madeWithLength made (args.map some)

def arrayStatics : List Entry :=
  [.method "isArray" 1 fun _ args => do return .bool (← isArray (nth args 0)),
   .method "from" 1 arrayFrom,
   .method "of" 0 arrayOf,
   .symbolGetter .species "get [Symbol.species]" fun this _ => return this]

/-- Whether a callback says yes to every element, or no. -/
def allElements (r : Ref) (args : List Value) (wanted : Bool) : Exec Bool := do
  let (n, f) ← lengthAndCallback r args
  let found ← visit r n f args fun _ _ answer => do
    if (← answer).truth == wanted then return none else return some .null
  return found.isNone

def mapElements (r : Ref) (args : List Value) : Exec Value := do
  let (n, f) ← lengthAndCallback r args
  let made ← speciesFor r n
  let values ← mapEach
    (fun i => do
      match ← element? r i with
      | none => return none
      | some v =>
        let v ← call f (nth args 1) [v, .ofNat i, .object r]
        fillElement made i v
        return some v)
    (List.range n) []
  madeOf made values

def filterElements (r : Ref) (args : List Value) : Exec Value := do
  let (n, f) ← lengthAndCallback r args
  let made ← speciesFor r 0
  let (_, values) ← iterate (0, 0, ([] : List (Option Value))) fun (i, count, done) => do
    if n ≤ i then return .ok (count, done.reverse)
    match ← element? r i with
    | none => return .error (i + 1, count, done)
    | some v =>
      if (← call f (nth args 1) [v, .ofNat i, .object r]).truth then
        fillElement made count v
        return .error (i + 1, count + 1, some v :: done)
      return .error (i + 1, count, done)
  madeOf made values

def indexOfElement (r : Ref) (args : List Value) : Exec Value := do
  let n ← lengthOf r
  if n = 0 then return .number (-1)
  let first ← toPlace (nth args 1) n 0
  let found ← firstOf n first fun i => do
    match ← element? r i with
    | some v => return if v.strictlyEqual (nth args 0) then some (i, v) else none
    | none => return none
  return placeOrNone found

def lastIndexOfElement (r : Ref) (args : List Value) : Exec Value := do
  let n ← lengthOf r
  if n = 0 then return .number (-1)
  let last ←
    if args.length < 2 then pure n
    else
      let x ← toInteger (nth args 1)
      pure (if x < 0 then clampNat (natFloat n + x + 1) n else clampNat (x + 1) n)
  let found ← lastOf last fun i => do
    match ← element? r i with
    | some v => return if v.strictlyEqual (nth args 0) then some (i, v) else none
    | none => return none
  return placeOrNone found

def includesElement (r : Ref) (args : List Value) : Exec Value := do
  let n ← lengthOf r
  if n = 0 then return .bool false
  let first ← toPlace (nth args 1) n 0
  let found ← firstOf n first fun i => do
    let v ← elementAt r i
    return if v.sameOrZero (nth args 0) then some (i, v) else none
  return .bool found.isSome

def localText (r : Ref) (n : Nat) : Exec Value := do
  let texts ← mapEach
    (fun i => do
      let v ← elementAt r i
      if v.isNullish then return #[] else toUnits (← invoke v "toLocaleString" []))
    (List.range n) []
  return .text (joinTexts (.ofString ",") texts)

def arrayText (r : Ref) : Exec Value := do
  let f ← getNamed r "join"
  if ← isCallable f then return ← call f (.object r) []
  let f ← getNamed Intrinsic.objectPrototype.ref "toString"
  call f (.object r) []

/-- All elements of an object whose copy some methods change. -/
def copyElements (r : Ref) : Exec (List Value) := do
  let n ← lengthOf r
  if 2147483647 < n then rangeError "invalid array length"
  mapEach (elementAt r) (List.range n) []

def spliced (r : Ref) (args : List Value) : Exec Value := do
  let n ← lengthOf r
  let first ← toPlace (nth args 0) n 0
  let skipped ← skippedOf args n first
  let total := n - skipped + (args.drop 2).length
  if mostLength < total then tooLong
  if 2147483647 < total then rangeError "invalid array length"
  let front ← mapEach (elementAt r) (List.range first) []
  let back ← mapEach (fun i => elementAt r (first + skipped + i))
    (List.range (n - first - skipped)) []
  newArray (front ++ args.drop 2 ++ back)

def replaced (r : Ref) (args : List Value) : Exec Value := do
  let n ← lengthOf r
  if 2147483647 < n then rangeError "invalid array length"
  match ← placeIn (nth args 0) n with
  | none => rangeError "invalid array index"
  | some place =>
    newArray (← mapEach (fun i => if i = place then return nth args 1 else elementAt r i)
      (List.range n) [])

def arrayMethods : List Entry :=
  [.method "at" 1 (onObject fun r args => do
     match ← placeIn (nth args 0) (← lengthOf r) with
     | some i => elementAt r i
     | none => return .undefined),
   .method "with" 2 (onObject replaced),
   .method "concat" 1 (onObject fun r args => concatAll r (.object r :: args)),
   .method "every" 1 (onObject fun r args => do return .bool (← allElements r args true)),
   .method "some" 1 (onObject fun r args => do return .bool (! (← allElements r args false))),
   .method "forEach" 1 (onObject fun r args => do
     let (n, f) ← lengthAndCallback r args
     let _ ← visit r n f args fun _ _ answer => do
       let _ ← answer
       return none
     return .undefined),
   .method "map" 1 (onObject mapElements),
   .method "filter" 1 (onObject filterElements),
   .method "reduce" 1 (onObject fun r args => reduceElements r args false),
   .method "reduceRight" 1 (onObject fun r args => reduceElements r args true),
   .method "fill" 1 (onObject fun r args => do
     let n ← lengthOf r
     let first ← toPlace (nth args 1) n 0
     let last ← toPlace (nth args 2) n n
     forNumbers (fun i => putElement r i (nth args 0)) first (last - first)
     return .object r),
   .method "find" 1 (onObject fun r args => do
     return valueOrUndefined (← search r args false)),
   .method "findIndex" 1 (onObject fun r args => do return placeOrNone (← search r args false)),
   .method "findLast" 1 (onObject fun r args => do return valueOrUndefined (← search r args true)),
   .method "findLastIndex" 1 (onObject fun r args => do
     return placeOrNone (← search r args true)),
   .method "indexOf" 1 (onObject indexOfElement),
   .method "lastIndexOf" 1 (onObject lastIndexOfElement),
   .method "includes" 1 (onObject includesElement),
   .method "join" 1 (onObject fun r args => do
     let n ← lengthOf r
     let separator ← if (nth args 0).isUndefined then pure (Units.ofString ",")
       else toUnits (nth args 0)
     joinElements r n separator),
   .method "toString" 0 (onObject fun r _ => arrayText r),
   .method "toLocaleString" 0 (onObject fun r _ => do localText r (← lengthOf r)),
   .method "pop" 0 (onObject fun r _ => popLast r),
   .method "push" 1 (onObject fun r args => do return .ofNat (← pushAll r args)),
   .method "shift" 0 (onObject fun r _ => shiftFirst r),
   .method "unshift" 1 (onObject fun r args => do return .ofNat (← unshiftAll r args)),
   .method "reverse" 0 (onObject fun r _ => do
     reverseElements r (← lengthOf r)
     return .object r),
   .method "toReversed" 0 (onObject fun r _ => do newArray (← copyElements r).reverse),
   .method "sort" 1 (fun this args => do
     let f ← comparatorOf (nth args 0)
     let r ← toObject this
     sortElements r f
     return .object r),
   .method "toSorted" 1 (fun this args => do
     let f ← comparatorOf (nth args 0)
     newArray (← sortValues f (← copyElements (← toObject this)))),
   .method "slice" 2 (onObject fun r args => do
     let n ← lengthOf r
     let first ← toPlace (nth args 0) n 0
     let last ← toPlace (nth args 1) n n
     takenOut r first (last - first)),
   .method "splice" 2 (onObject fun r args => do
     let n ← lengthOf r
     let first ← toPlace (nth args 0) n 0
     let skipped ← skippedOf args n first
     spliceAt r n first skipped (args.drop 2)),
   .method "toSpliced" 2 (onObject spliced),
   .method "copyWithin" 2 (onObject fun r args => do
     let n ← lengthOf r
     let target ← toPlace (nth args 0) n 0
     let first ← toPlace (nth args 1) n 0
     let last ← toPlace (nth args 2) n n
     let count := min (last - first) (n - target)
     moveElements r target first count (! (first < target && target < first + count))
     return .object r),
   .method "flatMap" 1 (onObject fun r args => do
     let (n, f) ← lengthAndCallback r args
     flatten r n 1 fun i v => call f (nth args 1) [v, .ofNat i, .object r]),
   .method "flat" 0 (onObject fun r args => do
     let n ← lengthOf r
     let depth ← if (nth args 0).isUndefined then pure 1 else toLength (nth args 0)
     flatten r n depth fun _ v => return v),
   .method "values" 0 (elementsOf .values),
   .symbolAlias .iterator "values",
   .method "keys" 0 (elementsOf .keys),
   .method "entries" 0 (elementsOf .entries)]

def arrayConstructor : Constructor :=
  { name := "Array", length := 1, prototype := some .arrayPrototype
    place := some .arrayConstructor
    call := fun args => constructArray args .undefined
    construct := constructArray
    own := arrayStatics
    methods := arrayMethods }

end CollectionRunner.Script.Library
