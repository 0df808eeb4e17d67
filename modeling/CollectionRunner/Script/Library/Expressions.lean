import CollectionRunner.Script.Library.Texts
import CollectionRunner.Script.Regexp.Reader

namespace CollectionRunner.Script.Library

open Exec Regexp

def lastIndexKey : Key := .ofString "lastIndex"

def patternOf (source flags : Units) : Exec Expression := do
  match Expression.ofUnits source flags with
  | .ok p => return p
  | .error message => syntaxError message

/-- What a regular expression is made of, if a value is one. -/
def patternParts? (v : Value) : Exec (Option (Units × Units)) := do
  match v with
  | .object r => inspect r fun
    | .regexp source flags => some (source, flags)
    | _ => none
  | _ => return none

def notPattern {α : Type} : Exec α := typeError "RegExp object expected"

/-- The source and the flags of a regular expression. -/
def thisPattern (this : Value) : Exec (Ref × Units × Units) := do
  match this, ← patternParts? this with
  | .object r, some (source, flags) => return (r, source, flags)
  | _, _ => notPattern

def setLastIndex (r : Ref) (n : Nat) : Exec Unit := set r lastIndexKey (.ofNat n)

def lastIndexOf (r : Ref) : Exec Nat := do toLength (← get r lastIndexKey)

def partOf (u : Units) : Option (Nat × Nat) → Value
  | some (a, b) => .text (u.extract a b)
  | none => .undefined

/-- The object of named groups. -/
def namedGroups (p : Expression) (value : Nat → Exec Value) : Exec Value := do
  if p.names.isEmpty then return .undefined
  let r ← newObject {}
  forEach
    (fun (name, g) => do
      let v ← value g
      modify (·.putOwn r (.ofUnits name) (.plain v)))
    p.names
  return .object r

/-- The array that tells of a match. -/
def matchArray (p : Expression) (u : Units) (groups : Array (Option (Nat × Nat))) : Exec Value := do
  let start := ((groups.getD 0 none).map (·.1)).getD 0
  let named ← namedGroups p fun g => return partOf u (groups.getD g none)
  match ← newArray (groups.toList.map (partOf u)) with
  | .object r =>
    let put (name : String) (v : Value) : Exec Unit :=
      modify (·.putOwn r (.ofString name) (.plain v))
    put "groups" named
    put "index" (.ofNat start)
    put "input" (.text u)
    if p.flags.indices then
      let span (g : Nat) : Exec Value := do
        match groups.getD g none with
        | some (a, b) => newArray [.ofNat a, .ofNat b]
        | none => return .undefined
      let spans ← newArray (← mapEach span (List.range groups.size) [])
      match spans with
      | .object s =>
        let names ← namedGroups p span
        modify (·.putOwn s (.ofString "groups") (.plain names))
      | _ => pure ()
      put "indices" spans
    return .object r
  | v => return v

/-- The next match of a regular expression, from its last index on if it keeps one. -/
def execPattern (this : Value) (args : List Value) : Exec Value := do
  let (r, source, flags) ← thisPattern this
  let u ← toUnits (nth args 0)
  let p ← patternOf source flags
  let keeps := p.flags.global || p.flags.sticky
  let start ← if keeps then lastIndexOf r else pure 0
  if u.size < start then
    setLastIndex r 0
    return .null
  match p.exec u start with
  | none =>
    if keeps then setLastIndex r 0
    return .null
  | some groups =>
    if keeps then setLastIndex r (((groups.getD 0 none).map (·.2)).getD 0)
    matchArray p u groups

/-- The next match of a value by its own method. -/
def execOn (this : Value) (given : Value) : Exec (Option Ref) := do
  let f ← getNamedOf this "exec"
  let told ← if ← isCallable f then call f this [given] else execPattern this [given]
  match told with
  | .object m => return some m
  | .null => return none
  | _ => typeError "RegExp exec method must return an object or null"

/-- The place after a character. -/
def advance (u : Units) (i : Nat) (unicode : Bool) : Nat :=
  if unicode then i + max 1 (u.codeAt i).2 else i + 1

/-- Moves on by a character after an empty match. -/
def pastEmpty (r : Ref) (u : Units) (unicode : Bool) : Exec Unit := do
  setLastIndex r (advance u (← lastIndexOf r) unicode)

def flagsOf (r : Ref) : Exec Units := do toUnits (← getNamed r "flags")

def hasFlag (flags : Units) (c : Char) : Bool := flags.contains c.toNat.toUInt16

def isUnicode (flags : Units) : Bool := hasFlag flags 'u'

/-- Something of each match, one after another; it is told whether the match is empty. -/
def allMatches {α : Type} (r : Ref) (u : Units) (unicode : Bool) (f : Ref → Units → Exec α) :
    Exec (List α) := do
  setLastIndex r 0
  iterate [] fun before => do
    poll
    match ← execOn (.object r) (.text u) with
    | none => return .ok before.reverse
    | some m =>
      let found ← toUnits (← get m (.index 0))
      let a ← f m found
      if found.isEmpty then pastEmpty r u unicode
      return .error (a :: before)

def matchCode : Code := onRef fun r args => do
  let u ← toUnits (nth args 0)
  let flags ← flagsOf r
  if ! hasFlag flags 'g' then
    return ((← execOn (.object r) (.text u)).map Value.object).getD .null
  let found ← allMatches r u (isUnicode flags) fun _ found => return Value.text found
  if found.isEmpty then return .null
  newArray found

/-- What a match tells, for a replacement. -/
def matchOf (u : Units) (m : Ref) : Exec Match := do
  let n ← lengthOf m
  let found ← toUnits (← get m (.index 0))
  let position := clampNat (← toInteger (← getNamed m "index")) u.size
  let groups ← mapEach
    (fun i => do
      let v ← get m (.index (i + 1))
      if v.isUndefined then return v else return .text (← toUnits v))
    (List.range (n - 1)) []
  return { text := u, position, found, groups, named := ← getNamed m "groups" }

def replaceMatches (u : Units) (by' : Value) : List Ref → Nat → Units → Exec Units
  | [], last, done => return done ++ u.extract last u.size
  | m :: rest, last, done => do
    let found ← matchOf u m
    let r ← replacement found by'
    if found.position < last then replaceMatches u by' rest last done
    else
      replaceMatches u by' rest (found.position + found.found.size)
        (done ++ u.extract last found.position ++ r)

def replaceCode : Code := onRef fun r args => do
  let u ← toUnits (nth args 0)
  let by' ← if ← isCallable (nth args 1) then pure (nth args 1)
    else pure (.text (← toUnits (nth args 1)))
  let flags ← flagsOf r
  let found ← if hasFlag flags 'g' then allMatches r u (isUnicode flags) fun m _ => return m
    else do pure (← execOn (.object r) (.text u)).toList
  return .text (← replaceMatches u by' found 0 #[])

def searchCode : Code := onRef fun r args => do
  let u ← toUnits (nth args 0)
  let before ← get r lastIndexKey
  if ! before.same (.number 0) then setLastIndex r 0
  let found ← execOn (.object r) (.text u)
  let after ← get r lastIndexKey
  if ! after.same before then set r lastIndexKey before
  match found with
  | some m => getNamed m "index"
  | none => return .number (-1)

/-- The pieces between the places where a splitter matches; `p` is where the last piece begins. -/
def splitPieces (splitter : Ref) (u : Units) (unicode : Bool) (limit : Nat) :
    Exec (List Value) :=
  iterate (0, 0, 0, []) fun (p, q, count, done) => do
    poll
    let past := advance u q unicode
    if u.size ≤ q then return .ok (Value.text (u.extract p u.size) :: done).reverse
    setLastIndex splitter q
    match ← execOn (.object splitter) (.text u) with
    | none => return .error (p, past, count, done)
    | some m =>
      let e := min (← lastIndexOf splitter) u.size
      if e = p then return .error (p, past, count, done)
      let done := Value.text (u.extract p q) :: done
      if count + 1 = limit then return .ok done.reverse
      let n ← lengthOf m
      let room := limit - (count + 1)
      let groups ← mapEach (fun i => get m (.index (i + 1))) (List.range (min (n - 1) room)) []
      let done := groups.reverse ++ done
      if room ≤ n - 1 then return .ok done.reverse
      return .error (e, e, count + n, done)

def splitCode : Code := onRef fun r args => do
  let u ← toUnits (nth args 0)
  let maker ← constructorFor r .regexpConstructor
  let flags ← flagsOf r
  let sticky := if hasFlag flags 'y' then flags else flags.push 121
  match ← construct maker [.object r, .text sticky] maker with
  | .object splitter =>
    let limit ← if (nth args 1).isUndefined then pure (Nat.pow 2 32 - 1)
      else pure (toUInt32 (← toNumber (nth args 1)))
    if limit = 0 then newArray []
    else if u.isEmpty then
      match ← execOn (.object splitter) (.text u) with
      | some _ => newArray []
      | none => newArray [.text u]
    else newArray (← splitPieces splitter u (isUnicode flags) limit)
  | _ => typeError "not an object"

/-- Gives the matches one after another. -/
def matchAllCode : Code := onRef fun r args => do
  let u ← toUnits (nth args 0)
  let maker ← constructorFor r .regexpConstructor
  let flags ← flagsOf r
  let matcher ← construct maker [.object r, .text flags] maker
  let last ← lastIndexOf r
  match matcher with
  | .object m => setLastIndex m last
  | _ => pure ()
  return .object (← newObject
    { prototype := some Intrinsic.matchIteratorPrototype.ref
      kind := .matchIterator matcher u (hasFlag flags 'g') (isUnicode flags) false })

def nextMatch (this : Value) (_ : List Value) : Exec Value := do
  let finish (it : Ref) : Exec Unit :=
    modify (·.modifyObj it fun o =>
      match o.kind with
      | .matchIterator m u g w _ => { o with kind := .matchIterator m u g w true }
      | _ => o)
  match this with
  | .object it =>
    match ← kindOf it with
    | .matchIterator (.object r) u isGlobal unicode false =>
      match ← execOn (.object r) (.text u) with
      | none =>
        finish it
        iteratorResult .undefined true
      | some m =>
        if isGlobal then
          if (← toUnits (← get m (.index 0))).isEmpty then pastEmpty r u unicode
        else finish it
        iteratorResult (.object m) false
    | .matchIterator .. => iteratorResult .undefined true
    | _ => typeError "RegExp String Iterator object expected"
  | _ => typeError "RegExp String Iterator object expected"

/-- A character of a source and the one after it as they can stand between strokes, and whether a
class of characters goes on after them. -/
def shownFrom (source : Units) : Nat → Nat → Bool → Units → Units
  | 0, _, _, done => done
  | n + 1, i, inClass, done =>
    if source.size ≤ i then done
    else
      let x := source.getD i 0
      if x == 92 && i + 1 < source.size then
        shownFrom source n (i + 2) inClass ((done.push x).push (source.getD (i + 1) 0))
      else if x == 93 then shownFrom source n (i + 1) false (done.push x)
      else if x == 91 then
        if ! inClass && source.getD (i + 1) 0 == 93 && i + 1 < source.size then
          shownFrom source n (i + 2) true ((done.push x).push 93)
        else shownFrom source n (i + 1) true (done.push x)
      else if x == 10 then shownFrom source n (i + 1) inClass ((done.push 92).push 110)
      else if x == 13 then shownFrom source n (i + 1) inClass ((done.push 92).push 114)
      else if x == 47 && ! inClass then
        shownFrom source n (i + 1) inClass ((done.push 92).push 47)
      else shownFrom source n (i + 1) inClass (done.push x)

/-- The source as it can stand between strokes. -/
def shownSource (source : Units) : Units :=
  if source.isEmpty then .ofString "(?:)" else shownFrom source (source.size + 1) 0 false #[]

def textOrEmpty (v : Value) : Exec Units := if v.isUndefined then return #[] else toUnits v

def constructPattern (args : List Value) (newTarget : Value) : Exec Value := do
  let given := nth args 0
  let flags := nth args 1
  let counts ← countsAsPattern given
  if newTarget.isUndefined && counts && flags.isUndefined then
    let maker ← getNamedOf given "constructor"
    if maker.same (.object Intrinsic.regexpConstructor.ref) then return given
  let (source, flags) ← show Exec (Units × Units) from do
    match ← patternParts? given with
    | some (source, own) =>
      return (source, ← if flags.isUndefined then pure own else toUnits flags)
    | none =>
      let source ← if counts then getNamedOf given "source" else pure given
      let flags ← if counts && flags.isUndefined then getNamedOf given "flags" else pure flags
      let source ← textOrEmpty source
      return (source, ← textOrEmpty flags)
  let _ ← patternOf source flags
  let p ← prototypeFor newTarget .regexpPrototype
  match ← evalRegexp source flags with
  | .object r =>
    modify (·.modifyObj r fun o => { o with prototype := some p })
    return .object r
  | v => return v

/-- Makes another regular expression of one that exists. -/
def compilePattern : Code := fun this args => do
  let (r, _, _) ← thisPattern this
  let (source, flags) ← show Exec (Units × Units) from do
    match ← patternParts? (nth args 0) with
    | some parts =>
      if ! (nth args 1).isUndefined then typeError "flags must be undefined"
      return parts
    | none =>
      let source ← textOrEmpty (nth args 0)
      return (source, ← textOrEmpty (nth args 1))
  let _ ← patternOf source flags
  modify (·.modifyObj r fun o => { o with kind := .regexp source flags })
  setLastIndex r 0
  return this

def flagGetter (name : String) (c : Char) : Entry :=
  .getter name fun this _ => do
    match this, ← patternParts? this with
    | _, some (_, flags) => return .bool (hasFlag flags c)
    | .object r, none =>
      if r == Intrinsic.regexpPrototype.ref then return .undefined
      notPattern
    | _, none => typeError "not an object"

/-- A unit in hexadecimal digits. -/
def hexUnit (x : UInt16) (digits : Nat) : Units :=
  .ofString (String.ofList
    ((List.range digits).reverse.map fun i => digitChar (x.toNat / Nat.pow 16 i % 16)))

/-- A unit of a text as a source that matches it. -/
def escapedUnit (x : UInt16) (isFirst : Bool) : Units :=
  let c := Char.ofNat x.toNat
  let short : Units := Units.ofString "\\x" ++ hexUnit x 2
  if x < 33 then
    if 9 ≤ x && x ≤ 13 then
      #[92, ("tnvfr".toList.getD (x.toNat - 9) 't').toNat.toUInt16]
    else short
  else if x < 128 then
    if c.isAlphanum then if isFirst then short else #[x]
    else if ",-=<>#&!%:;@~'\x60\"".toList.contains c then short
    else if c == '_' then #[x]
    else #[92, x]
  else if x < 256 then short
  else if Units.isHigh x || Units.isLow x || Units.isSpace x then
    Units.ofString "\\u" ++ hexUnit x 4
  else #[x]

/-- A source that matches a text and nothing else. -/
def escapeText : Code := fun _ args => do
  match nth args 0 with
  | .text u =>
    return .text ((u.toList.mapIdx fun i x => escapedUnit x (i = 0)).foldl (· ++ ·) #[])
  | _ => typeError "not a string"

/-- The flags by their properties, in the order of their letters. -/
def flagLetters : List (String × Char) :=
  [("hasIndices", 'd'), ("global", 'g'), ("ignoreCase", 'i'), ("multiline", 'm'), ("dotAll", 's'),
   ("unicode", 'u'), ("unicodeSets", 'v'), ("sticky", 'y')]

def patternFlags : Code := onRef fun r _ => do
  let letters ← mapEach
    (fun (name, c) => do
      return if (← getNamed r name).truth then [c.toNat.toUInt16] else [])
    flagLetters []
  return .text letters.flatten.toArray

def patternSource : Code := fun this _ => do
  match this, ← patternParts? this with
  | _, some (source, _) => return .text (shownSource source)
  | .object r, none =>
    if r == Intrinsic.regexpPrototype.ref then return .text (shownSource #[])
    notPattern
  | _, none => typeError "not an object"

def regexpConstructor : Constructor :=
  { name := "RegExp", length := 2, prototype := some .regexpPrototype
    place := some .regexpConstructor
    call := fun args => constructPattern args .undefined
    construct := constructPattern
    own := [.method "escape" 1 escapeText,
      .symbolGetter .species "get [Symbol.species]" fun this _ => return this]
    methods := [
      .getter "flags" patternFlags, .getter "source" patternSource,
      flagGetter "global" 'g', flagGetter "ignoreCase" 'i', flagGetter "multiline" 'm',
      flagGetter "dotAll" 's', flagGetter "unicode" 'u', flagGetter "unicodeSets" 'v',
      flagGetter "sticky" 'y', flagGetter "hasIndices" 'd',
      .method "exec" 1 execPattern,
      .method "compile" 2 compilePattern,
      .method "test" 1 fun this args => do
        return .bool (← execOn this (nth args 0)).isSome,
      .method "toString" 0 (onRef fun r _ => do
        let source ← toUnits (← getNamed r "source")
        let flags ← flagsOf r
        return .text (.ofString "/" ++ source ++ .ofString "/" ++ flags)),
      .symbolMethod .replace "[Symbol.replace]" 2 replaceCode,
      .symbolMethod .matches "[Symbol.match]" 1 matchCode,
      .symbolMethod .matchAll "[Symbol.matchAll]" 1 matchAllCode,
      .symbolMethod .search "[Symbol.search]" 1 searchCode,
      .symbolMethod .split "[Symbol.split]" 2 splitCode] }

def matchIteratorMethods : List Entry :=
  [.method "next" 0 nextMatch, .tag "RegExp String Iterator"]

end CollectionRunner.Script.Library
