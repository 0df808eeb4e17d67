import CollectionRunner.Script.Library.Entry
import CollectionRunner.Script.Alphabet

namespace CollectionRunner.Script.Library

open Exec

def thisText (this : Value) : Exec Units := do
  match this with
  | .text u => return u
  | .object r =>
    match ← kindOf r with
    | .boxed (.text u) => return u
    | _ => typeError "not a string"
  | _ => typeError "not a string"

/-- The text repeated and cut to a length. -/
def fillTo (length : Nat) (filler : Units) : Units :=
  (filler.replicate (length / filler.size + 1) #[]).extract 0 length

def padText (u : Units) (args : List Value) : Exec Units := do
  let target := clampNat (← toInteger (nth args 0)) (Nat.pow 2 31)
  if target ≤ u.size then return #[]
  let filler ← if (nth args 1).isUndefined then pure (Units.ofString " ") else toUnits (nth args 1)
  if filler.isEmpty then return #[]
  checkText target
  return fillTo (target - u.size) filler

/-- Whether a value counts as a regular expression. -/
def countsAsPattern (v : Value) : Exec Bool := do
  match v with
  | .object r =>
    let found ← get r KnownSymbol.matches.key
    if ! found.isUndefined then return found.truth
    inspect r fun
      | .regexp .. => true
      | _ => false
  | _ => return false

/-- A text to look for, which must be no regular expression. -/
def needle (v : Value) : Exec Units := do
  if ← countsAsPattern v then typeError "regexp not supported"
  toUnits v

/-- A number of one or two digits at a place, up to a bound, and how many digits it has. -/
def groupNumber (u : Units) (i most : Nat) : Option (Nat × Nat) :=
  let digit (j : Nat) : Option Nat :=
    let x := (u.getD j 0).toNat
    if 48 ≤ x && x ≤ 57 then some (x - 48) else none
  match digit i with
  | none => none
  | some a =>
    let two := match digit (i + 1) with
      | some b => if 1 ≤ 10 * a + b && 10 * a + b ≤ most then some (10 * a + b, 2) else none
      | none => none
    match two with
    | some t => some t
    | none => if 1 ≤ a && a ≤ most then some (a, 1) else none

/-- What has been found: where, its text, its groups and the object of its named groups. -/
structure Match where
  text : Units
  position : Nat
  found : Units
  groups : List Value := []
  named : Value := .undefined

/-- Fills in what has been found where a replacement mentions it. -/
def expand (m : Match) (template : Units) : Nat → Nat → Units → Exec Units
  | 0, _, done => return done
  | n + 1, i, done => do
    if template.size ≤ i then return done
    let x := template.getD i 0
    if x != 36 then expand m template n (i + 1) (done.push x)
    else
      let y := template.getD (i + 1) 0
      if y == 36 then expand m template n (i + 2) (done.push 36)
      else if y == 38 then expand m template n (i + 2) (done ++ m.found)
      else if y == 96 then expand m template n (i + 2) (done ++ m.text.extract 0 m.position)
      else if y == 39 then
        expand m template n (i + 2)
          (done ++ m.text.extract (m.position + m.found.size) m.text.size)
      else if y == 60 && ! m.named.isUndefined then
        match Units.indexOf template #[62] (i + 2) with
        | none => expand m template n (i + 1) (done.push 36)
        | some stop =>
          let v ← getOf m.named (.ofUnits (template.extract (i + 2) stop))
          let u ← if v.isUndefined then pure #[] else toUnits v
          expand m template n (stop + 1) (done ++ u)
      else
        match groupNumber template (i + 1) m.groups.length with
        | some (g, count) =>
          let v := m.groups.getD (g - 1) .undefined
          let u ← if v.isUndefined then pure #[] else toUnits v
          expand m template n (i + 1 + count) (done ++ u)
        | none => expand m template n (i + 1) (done.push 36)

/-- What stands in the place of a match. -/
def replacement (m : Match) (by' : Value) : Exec Units := do
  if ← isCallable by' then
    let args := [Value.text m.found] ++ m.groups ++ [.ofNat m.position, .text m.text] ++
      (if m.named.isUndefined then [] else [m.named])
    toUnits (← call by' .undefined args)
  else
    let template ← toUnits by'
    expand m template (template.size + 1) 0 #[]

/-- All places where a text stands in another one, none within another. -/
def placesOf (u v : Units) : Nat → Nat → List Nat
  | 0, _ => []
  | n + 1, i =>
    match Units.indexOf u v i with
    | none => []
    | some j => j :: placesOf u v n (j + max 1 v.size)

def replaceAt (u v : Units) (by' : Value) : List Nat → Nat → Units → Exec Units
  | [], last, done => return done ++ u.extract last u.size
  | p :: rest, last, done => do
    let r ← replacement { text := u, position := p, found := v } by'
    replaceAt u v by' rest (p + v.size) (done ++ u.extract last p ++ r)

/-- Hands the work to a method of the first argument, if it has it. `check` looks at the argument
after it has been asked for the method, or before. -/
def delegated (s : KnownSymbol) (check : Option (Value → Exec Unit)) (checksFirst : Bool)
    (otherwise : Code) : Code := fun this args => do
  if this.isNullish then typeError "cannot convert to object"
  let v := nth args 0
  if v.isNullish then otherwise this args
  else
    let check : Exec Unit :=
      match check with
      | some f => f v
      | none => return ()
    if checksFirst then check
    let f ← getOf v s.key
    if ! checksFirst then check
    if f.isNullish then otherwise this args else call f v (this :: args.drop 1)

def replaceText (all : Bool) : Code := fun this args => do
  let u ← toUnits this
  let v ← toUnits (nth args 0)
  let by' ← if ← isCallable (nth args 1) then pure (nth args 1)
    else pure (.text (← toUnits (nth args 1)))
  let places := placesOf u v (u.size + 2) 0
  return .text (← replaceAt u v by' (if all then places else places.take 1) 0 #[])

/-- A regular expression made from a value, and what one of its methods gives. -/
def viaPattern (s : KnownSymbol) (flags : List Value) : Code := fun this args => do
  let u ← toUnits this
  let maker := Value.object Intrinsic.regexpConstructor.ref
  let made ← construct maker (nth args 0 :: flags) maker
  let f ← getOf made s.key
  call f made [.text u]

/-- The flags of a regular expression that is to find all have to say so. -/
def checkGlobal (v : Value) : Exec Unit := do
  if ← countsAsPattern v then
    let flags ← getNamedOf v "flags"
    if flags.isNullish then typeError "cannot convert to object"
    if ! (← toUnits flags).contains 103 then typeError "regexp must have the 'g' flag"

def splitText : Code := fun this args => do
  let u ← toUnits this
  let limit ← if (nth args 1).isUndefined then pure (Nat.pow 2 32 - 1)
    else pure (toUInt32 (← toNumber (nth args 1)))
  let separator ← toUnits (nth args 0)
  if limit = 0 then newArray []
  else if (nth args 0).isUndefined then newArray [.text u]
  else if separator.isEmpty then
    newArray (((List.range u.size).take limit).map fun i => .text #[u.getD i 0])
  else
    let places := placesOf u separator (u.size + 2) 0
    let starts := 0 :: places.map (· + separator.size)
    let parts := (starts.zip (places ++ [u.size])).map fun (a, b) => Value.text (u.extract a b)
    newArray (parts.take limit)

def textMethod (name : String) (length : Nat) (f : Units → List Value → Exec Value) : Entry :=
  .method name length (onText f)

/-- The unit at a place that a number says. -/
def unitAt? (u : Units) (v : Value) : Exec (Option Nat) := do
  let x ← toInteger v
  if x < 0 || natFloat u.size ≤ x then return none
  return some (clampNat x u.size)

/-- Whether a text can be found in another one, at the place that a function says. -/
def findsText (placed : Units → Units → Value → Exec Bool) : Units → List Value → Exec Value :=
  fun u args => do
    let v ← needle (nth args 0)
    return .bool (← placed u v (nth args 1))

/-- A place in a text, between its start and its end. -/
def toPosition (u : Units) (v : Value) : Exec Nat := do return clampNat (← toInteger v) u.size

/-- The text in a normal form. -/
def normalize (u : Units) (args : List Value) : Exec Value := do
  if (nth args 0).isUndefined then return .text (Alphabet.normalText .nfc u)
  match Unicode.NormalForm.named? (← toText (nth args 0)) with
  | some form => return .text (Alphabet.normalText form u)
  | none => rangeError "bad normalization form"

/-- The order of texts by their characters, however these are composed. -/
def localOrder (u v : Units) : Ordering :=
  compareLists (Alphabet.normalText .nfc u).codes (Alphabet.normalText .nfc v).codes
where
  compareLists : List Nat → List Nat → Ordering
    | [], [] => .eq
    | [], _ :: _ => .lt
    | _ :: _, [] => .gt
    | a :: as, b :: bs => (compare a b).then (compareLists as bs)

/-- A method that puts the text between marks of a page. -/
def marked (name mark : String) (detail : Option String) : Entry :=
  .method name (if detail.isSome then 1 else 0) (onText fun u args => do
    let start ←
      match detail with
      | none => pure (Units.ofString ("<" ++ mark))
      | some a =>
        if (nth args 0).isNullish then typeError "null or undefined are forbidden"
        let v ← toUnits (nth args 0)
        let quoted := v.foldl
          (fun d x => if x == 34 then d ++ Units.ofString "&quot;" else d.push x) #[]
        pure (Units.ofString ("<" ++ mark ++ " " ++ a ++ "=\"") ++ quoted ++ Units.ofString "\"")
    return .text (start ++ Units.ofString ">" ++ u ++ Units.ofString ("</" ++ mark ++ ">")))

/-- Methods that look things up in a text. -/
def textReaders : List Entry :=
  [.told "length" (.number 0),
   textMethod "at" 1 fun u args => do
     let x ← toInteger (nth args 0)
     let x := if x < 0 then natFloat u.size + x else x
     if x < 0 || natFloat u.size ≤ x then return .undefined
     return .text #[u.getD (clampNat x u.size) 0],
   textMethod "charCodeAt" 1 fun u args => do
     match ← unitAt? u (nth args 0) with
     | some i => return .ofNat (u.getD i 0).toNat
     | none => return .number nan,
   textMethod "charAt" 1 fun u args => do
     match ← unitAt? u (nth args 0) with
     | some i => return .text #[u.getD i 0]
     | none => return .text #[],
   textMethod "concat" 1 fun u args => do
     let parts ← mapEach toUnits args []
     checkText ((parts.map Array.size).foldl (· + ·) u.size)
     return .text (parts.foldl (· ++ ·) u),
   textMethod "codePointAt" 1 fun u args => do
     match ← unitAt? u (nth args 0) with
     | some i => return .ofNat (u.codeAt i).1
     | none => return .undefined,
   textMethod "isWellFormed" 0 fun u _ => return .bool u.toString?.isSome,
   textMethod "toWellFormed" 0 fun u _ => return .ofString u.lossyString,
   textMethod "indexOf" 1 fun u args => do
     let v ← toUnits (nth args 0)
     match u.indexOf v (← toPosition u (nth args 1)) with
     | some i => return .ofNat i
     | none => return .number (-1),
   textMethod "lastIndexOf" 1 fun u args => do
     let v ← toUnits (nth args 0)
     let x ← toNumber (nth args 1)
     if u.size < v.size then return .number (-1)
     let last := if x.isNaN then u.size - v.size else clampNat x (u.size - v.size)
     match u.lastIndexFrom v last with
     | some i => return .ofNat i
     | none => return .number (-1),
   textMethod "includes" 1 (findsText fun u v at' => do
     return (u.indexOf v (← toPosition u at')).isSome),
   textMethod "endsWith" 1 (findsText fun u v at' => do
     let stop ← if at'.isUndefined then pure u.size else toPosition u at'
     return v.size ≤ stop && Units.matchesAt (u.extract 0 stop) (stop - v.size) v),
   textMethod "startsWith" 1 (findsText fun u v at' => do
     return u.matchesAt (← toPosition u at') v)]

/-- Methods that make texts. -/
def textWriters : List Entry :=
  [.method "match" 1 (delegated .matches none false (viaPattern .matches [])),
   .method "matchAll" 1
     (delegated .matchAll (some checkGlobal) false (viaPattern .matchAll [.ofString "g"])),
   .method "search" 1 (delegated .search none false (viaPattern .search [])),
   .method "split" 2 (delegated .split none false splitText),
   textMethod "substring" 2 fun u args => do
     let a ← toPosition u (nth args 0)
     let b ← if (nth args 1).isUndefined then pure u.size else toPosition u (nth args 1)
     return .text (u.extract (min a b) (max a b)),
   textMethod "substr" 2 fun u args => do
     let a ← toPlace (nth args 0) u.size 0
     let count ← if (nth args 1).isUndefined then pure (u.size - a)
       else pure (clampNat (← toInteger (nth args 1)) (u.size - a))
     return .text (u.extract a (a + count)),
   textMethod "slice" 2 fun u args => do
     let a ← toPlace (nth args 0) u.size 0
     let b ← toPlace (nth args 1) u.size u.size
     return .text (u.extract a b),
   textMethod "repeat" 1 fun u args => do
     let x ← toInteger (nth args 0)
     if x < 0 || 2147483647 < x then rangeError "invalid repeat count"
     let n := clampNat x (Nat.pow 2 31)
     if u.isEmpty || n = 1 then return .text u
     checkText (n * u.size)
     return .text (u.replicate n #[]),
   .method "replace" 2 (delegated .replace none false (replaceText false)),
   .method "replaceAll" 2 (delegated .replace (some checkGlobal) true (replaceText true)),
   textMethod "padEnd" 1 fun u args => do return .text (u ++ (← padText u args)),
   textMethod "padStart" 1 fun u args => do return .text ((← padText u args) ++ u),
   textMethod "trim" 0 fun u _ => return .text u.trim,
   textMethod "trimEnd" 0 fun u _ => return .text u.trimEnd,
   .alias "trimRight" "trimEnd",
   textMethod "trimStart" 0 fun u _ => return .text u.trimStart,
   .alias "trimLeft" "trimStart",
   .method "toString" 0 fun this _ => do return .text (← thisText this),
   .method "valueOf" 0 fun this _ => do return .text (← thisText this),
   textMethod "localeCompare" 1 fun u args => do
     let v ← toUnits (nth args 0)
     return .number (match localOrder u v with
       | .lt => -1
       | .eq => 0
       | .gt => 1),
   textMethod "normalize" 0 normalize,
   textMethod "toLowerCase" 0 fun u _ => return .text (Alphabet.lowerText u),
   textMethod "toUpperCase" 0 fun u _ => return .text (Alphabet.upperText u),
   textMethod "toLocaleLowerCase" 0 fun u _ => return .text (Alphabet.lowerText u),
   textMethod "toLocaleUpperCase" 0 fun u _ => return .text (Alphabet.upperText u),
   .symbolMethod .iterator "[Symbol.iterator]" 0 (onText fun u _ => do
     return .object (← newObject
       { prototype := some Intrinsic.stringIteratorPrototype.ref, kind := .textIterator u 0 }))]

/-- Methods that mark texts for pages. -/
def textMarkers : List Entry :=
  [marked "anchor" "a" (some "name"), marked "big" "big" none, marked "blink" "blink" none,
   marked "bold" "b" none, marked "fixed" "tt" none, marked "fontcolor" "font" (some "color"),
   marked "fontsize" "font" (some "size"), marked "italics" "i" none,
   marked "link" "a" (some "href"), marked "small" "small" none, marked "strike" "strike" none,
   marked "sub" "sub" none, marked "sup" "sup" none]

def nextCharacter (this : Value) (_ : List Value) : Exec Value := do
  match this with
  | .object it =>
    match ← kindOf it with
    | .textIterator u i =>
      if i < u.size then
        let (_, count) := u.codeAt i
        modify (·.modifyObj it fun o => { o with kind := .textIterator u (i + count) })
        iteratorResult (.text (u.extract i (i + count))) false
      else iteratorResult .undefined true
    | _ => typeError "String Iterator object expected"
  | _ => typeError "String Iterator object expected"

/-- The text of a value, of which a symbol is shown by its description. -/
def textFrom (args : List Value) : Exec Units := do
  match args with
  | [] => return #[]
  | .symbol id :: _ =>
    let u ← read fun s => (s.symbols.getD id none).getD #[]
    return .ofString "Symbol(" ++ u ++ .ofString ")"
  | v :: _ => toUnits v

def stringConstructor : Constructor :=
  { name := "String", length := 1, prototype := some .stringPrototype
    call := fun args => do return .text (← textFrom args)
    construct := fun args newTarget => do
      let u ← match args with
        | [] => pure #[]
        | v :: _ => toUnits v
      let p ← prototypeFor newTarget .stringPrototype
      return .object (← newObject
        { prototype := some p, kind := .boxed (.text u),
          properties := #[(lengthKey, .fixed (.ofNat u.size))] })
    constructorFirst := true
    own := [
      .method "fromCharCode" 1 fun _ args => do
        let xs ← mapEach toNumber args []
        return .text (xs.map fun x => (toUInt32 x).toUInt16).toArray,
      .method "fromCodePoint" 1 fun _ args => do
        let u ← mapEach
          (fun v => do
            match wholeNumber? (← toNumber v) with
            | some n =>
              if n < 0 || 0x10FFFF < n then rangeError "invalid code point"
              return n.toNat
            | none => rangeError "invalid code point")
          args []
        return .text (u.foldl Units.pushCode #[]),
      .method "raw" 1 fun _ args => do
        let strings ← toObject (nth args 0)
        let raw ← toObject (← getNamed strings "raw")
        let n ← lengthOf raw
        let parts ← mapEach
          (fun i => do
            let u ← toUnits (← get raw (.index i))
            if i + 1 < n && i + 1 < args.length then return u ++ (← toUnits (nth args (i + 1)))
            return u)
          (List.range n) []
        return .text (parts.foldl (· ++ ·) #[])]
    methods := textReaders ++ textWriters ++ textMarkers }

end CollectionRunner.Script.Library
