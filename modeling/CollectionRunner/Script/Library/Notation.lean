import CollectionRunner.Script.Library.Arrays

namespace CollectionRunner.Script.Library

open Exec

/-- How values are written: a function that replaces them, the names that are written at all, and
what the lines of inner values begin with. -/
structure Plan where
  replacer : Option Value := none
  names : Option (List Key) := none
  gap : Units := #[]

/-- A unit by four hexadecimal digits. -/
def codedUnit (x : UInt16) : Units :=
  let digit (k : Nat) : UInt16 :=
    ("0123456789abcdef".toList.getD (x.toNat / Nat.pow 16 k % 16) '0').toNat.toUInt16
  #[92, 117, digit 3, digit 2, digit 1, digit 0]

/-- What a unit that does not stand alone is written as; half a pair is written by its digits. -/
def writtenUnit (x : UInt16) : Units :=
  if x == 34 then #[92, 34]
  else if x == 92 then #[92, 92]
  else if x == 8 then #[92, 98]
  else if x == 12 then #[92, 102]
  else if x == 10 then #[92, 110]
  else if x == 13 then #[92, 114]
  else if x == 9 then #[92, 116]
  else if x < 32 || Units.isHigh x || Units.isLow x then codedUnit x
  else #[x]

/-- A text between quotes. -/
def quotedFrom (u : Units) : Nat → Nat → Units → Units
  | 0, _, done => done.push 34
  | n + 1, i, done =>
    if u.size ≤ i then done.push 34
    else
      let x := u.getD i 0
      let y := u.getD (i + 1) 0
      if Units.isHigh x && Units.isLow y then quotedFrom u n (i + 2) ((done.push x).push y)
      else quotedFrom u n (i + 1) (done ++ writtenUnit x)

def quoted (u : Units) (done : Units) : Units := quotedFrom u (u.size + 1) 0 (done.push 34)

/-- What is written in the place of a value, unless it is left out. -/
def prepared (plan : Plan) (holder : Value) (k : Key) (v : Value) : Exec (Option Value) := do
  let v ←
    match v with
    | .object _ | .big _ =>
      let f ← getNamedOf v "toJSON"
      if ← isCallable f then call f v [.ofKey k] else pure v
    | _ => pure v
  let v ←
    match plan.replacer with
    | some f => call f holder [.ofKey k, v]
    | none => pure v
  match v with
  | .undefined | .symbol _ => return none
  | .object r =>
    if ← isCallable v then return none
    match ← kindOf r with
    | .boxed (.number _) => return some (.number (← toNumber v))
    | .boxed (.text _) => return some (.text (← toUnits v))
    | .boxed (.bool b) => return some (.bool b)
    | .boxed (.big n) => return some (.big n)
    | _ => return some v
  | _ => return some v

/-- What a line within an array or an object begins with, and what the line of its end begins with;
there are no lines without a gap. -/
structure Lines where
  gap : Units
  inner : Units
  outer : Units

namespace Lines

/-- Begins a part, after a comma if it is not the first one. -/
def begin (l : Lines) (isFirst : Bool) (done : Units) : Units :=
  let done := if isFirst then done else done.push 44
  if l.gap.isEmpty then done else done.push 10 ++ l.inner

/-- Ends the whole with its mark. -/
def close (l : Lines) (isEmpty : Bool) (mark : UInt16) (done : Units) : Units :=
  if l.gap.isEmpty || isEmpty then done.push mark else (done.push 10 ++ l.outer).push mark

/-- A name with its colon. -/
def name (l : Lines) (k : Key) (done : Units) : Units :=
  let done := (quoted ((k.units?).getD #[]) done).push 58
  if l.gap.isEmpty then done else done.push 32

end Lines

/-- Writes the elements of an array from place `i` on, as many as are left. -/
def writeItems (plan : Plan) (l : Lines) (inside : Value → Units → Exec Units) (r : Ref) :
    (left : Nat) → (i : Nat) → Units → Exec Units
  | 0, _, done => return done
  | left + 1, i, done => do
    pollAt i
    let item ← get r (.index i)
    match ← prepared plan (.object r) (.index i) item with
    | none =>
      writeItems plan l inside r left (i + 1) (l.begin (i = 0) done ++ Units.ofString "null")
    | some w =>
      let done ← inside w (l.begin (i = 0) done)
      writeItems plan l inside r left (i + 1) done

/-- Writes the properties of an object and tells whether there are none. -/
def writeFields (plan : Plan) (l : Lines) (inside : Value → Units → Exec Units) (r : Ref) :
    List Key → Bool → Units → Exec (Units × Bool)
  | [], isEmpty, done => return (done, isEmpty)
  | k :: rest, isEmpty, done => do
    let item ← get r k
    match ← prepared plan (.object r) k item with
    | none => writeFields plan l inside r rest isEmpty done
    | some w =>
      let done ← inside w (l.name k (l.begin isEmpty done))
      writeFields plan l inside r rest false done

/-- Writes a value after what has been written; `indent` is what the lines around begin with. -/
def write (plan : Plan) : Nat → List Ref → Units → Value → Units → Exec Units
  | 0, _, _, _, _ => stackOverflow
  | n + 1, around, indent, v, done => do
    match v with
    | .null => return done ++ Units.ofString "null"
    | .bool b => return done ++ Units.ofString (if b then "true" else "false")
    | .number x =>
      return done ++ Units.ofString (if x.isNaN || x.isInf then "null" else numberText x)
    | .text u => return quoted u done
    | .big _ => typeError "BigInt are forbidden in JSON.stringify"
    | .object r =>
      if around.contains r then typeError "circular reference"
      let l : Lines := ⟨plan.gap, indent ++ plan.gap, indent⟩
      let inside := write plan n (r :: around) l.inner
      if ← isArray v then
        let length ← lengthOf r
        let done ← writeItems plan l inside r length 0 (done.push 91)
        return l.close (length = 0) 93 done
      else
        let keys ←
          match plan.names with
          | some names => pure names
          | none => enumerableKeys r
        let (done, isEmpty) ← writeFields plan l inside r keys true (done.push 123)
        return l.close isEmpty 125 done
    | _ => return done

/-- How deep values may be written one within another. -/
def mostDepth : Nat := 5000

/-- The names in an array, none of them twice. -/
def nameList (r : Ref) : Exec (List Key) := do
  let keys ← mapEach
    (fun v => do
      match v with
      | .text u => return [Key.ofUnits u]
      | .number _ => return [← toKey v]
      | .object q =>
        match ← kindOf q with
        | .boxed (.text _) | .boxed (.number _) => return [Key.ofUnits (← toUnits v)]
        | _ => return []
      | _ => return [])
    (← listOf r) []
  return keys.flatten.eraseDups

def gapOf (v : Value) : Exec Units := do
  let v ←
    match v with
    | .object r =>
      match ← kindOf r with
      | .boxed (.number _) => pure (.number (← toNumber v))
      | .boxed (.text _) => pure (.text (← toUnits v))
      | _ => pure v
    | _ => pure v
  match v with
  | .number _ => return (Units.ofString " ").replicate (clampNat (← toInteger v) 10) #[]
  | .text u => return u.extract 0 10
  | _ => return #[]

/-- The JSON text of a value, if it has one. -/
def stringify (v replacer space : Value) : Exec (Option Units) := do
  let plan : Plan ← do
    match replacer with
    | .object r =>
      if ← isCallable replacer then pure { replacer := some replacer }
      else if ← isArray replacer then pure { names := some (← nameList r) }
      else pure {}
    | _ => pure {}
  let plan := { plan with gap := ← gapOf space }
  let holder ← emptyObject
  modify (·.putOwn holder (.text #[]) (.plain v))
  match ← prepared plan (.object holder) (.text #[]) v with
  | none => return none
  | some w => return some (← write plan mostDepth [] #[] w #[])

/-- A value that has been read and not been made yet. -/
inductive Draft where
  | null
  | bool (b : Bool)
  | number (x : Float)
  | text (u : Units)
  | array (items : List Draft)
  | object (fields : List (Units × Draft))
  deriving Inhabited

/-- A word of a JSON text. -/
inductive Token where
  | eof
  | text (u : Units)
  | number (x : Float)
  | name (s : String)
  | mark (code : Nat)
  deriving Inhabited

/-- A JSON text, by the numbers of its characters. -/
abbrev Source := Array Nat

namespace Source

def ofUnitsFrom (u : Units) : Nat → Nat → Source → Source
  | 0, _, done => done
  | n + 1, i, done =>
    if u.size ≤ i then done
    else
      let (code, count) := u.codeAt i
      ofUnitsFrom u n (i + count) (done.push code)

def ofUnits (u : Units) : Source := ofUnitsFrom u (u.size + 1) 0 #[]

/-- How many bytes a character counts for in a place. -/
def width (code : Nat) : Nat :=
  if code < 0x80 then 1 else if code < 0x800 then 2 else if code < 0x10000 then 3 else 4

def textOf (cs : Source) (i j : Nat) : String :=
  String.ofList ((cs.extract i j).toList.map Char.ofNat)

def isMark (cs : Source) (i : Nat) (c : Char) : Bool := cs[i]? == some c.toNat

def isDigit (cs : Source) (i : Nat) : Bool :=
  match cs[i]? with
  | some x => 48 ≤ x && x ≤ 57
  | none => false

/-- A line, where it begins, and the place that the count has come to. -/
structure Row where
  line : Nat := 1
  start : Nat := 0
  place : Nat := 0

/-- The row of a place. The byte that comes after a break of lines is passed over unseen. -/
def rowFrom (bytes : Array Nat) (place : Nat) : Nat → Row → Row
  | 0, row => row
  | n + 1, row =>
    if place ≤ row.place then row
    else
      let x := bytes.getD row.place 0
      if x == 13 || x == 10 then
        let start := row.place + if x == 13 && bytes[row.place + 1]? == some 10 then 2 else 1
        rowFrom bytes place n ⟨row.line + 1, start, start + 1⟩
      else rowFrom bytes place n { row with place := row.place + 1 }

/-- The lines of a text byte by byte: a character of several bytes is no break of lines. -/
def bytesOf (cs : Source) : Array Nat :=
  cs.foldl (fun done x => (List.range (width x)).foldl (fun d _ => d.push x) done) #[]

/-- A complaint about a place of the text. -/
def complaint {α : Type} (cs : Source) (i : Nat) (message : String) : Except String α :=
  let place := (cs.extract 0 i).foldl (fun n x => n + width x) 0
  let row := rowFrom (bytesOf cs) place (place + 1) {}
  .error (message ++ " in JSON at position " ++ toString place ++ " (line " ++
    toString row.line ++ " column " ++ toString (row.place - row.start + 1) ++ ")")

def endedEarly {α : Type} : Except String α := .error "Unexpected end of JSON input"

def hexValue? (x : Nat) : Option Nat :=
  if 48 ≤ x && x ≤ 57 then some (x - 48)
  else if 97 ≤ x && x ≤ 102 then some (x - 87)
  else if 65 ≤ x && x ≤ 70 then some (x - 55)
  else none

/-- The number of four hexadecimal digits. -/
def readHex (cs : Source) : Nat → Nat → Nat → Except String Nat
  | 0, _, acc => .ok acc
  | n + 1, i, acc =>
    match (cs[i]?).bind hexValue? with
    | some h => readHex cs n (i + 1) (16 * acc + h)
    | none => complaint cs i "Bad Unicode escape"

/-- A text from after its opening quote on. -/
def readText (cs : Source) : Nat → Nat → Units → Except String (Units × Nat)
  | 0, _, _ => endedEarly
  | n + 1, i, done =>
    match cs[i]? with
    | none => endedEarly
    | some 34 => .ok (done, i + 1)
    | some 92 =>
      let put (x : UInt16) : Except String (Units × Nat) := readText cs n (i + 2) (done.push x)
      match (cs[i + 1]?).map Char.ofNat with
      | some '"' => put 34
      | some '\\' => put 92
      | some '/' => put 47
      | some 'b' => put 8
      | some 'f' => put 12
      | some 'n' => put 10
      | some 'r' => put 13
      | some 't' => put 9
      | some 'u' => do
        let x ← readHex cs 4 (i + 2) 0
        readText cs n (i + 6) (done.push x.toUInt16)
      | some _ => complaint cs (i + 1) "Bad escaped character"
      | none => endedEarly
    | some x =>
      if x < 32 then complaint cs i "Bad control character in string literal"
      else readText cs n (i + 1) (done.pushCode x)

/-- The place after the digits. -/
def skipDigits (cs : Source) : Nat → Nat → Nat
  | 0, i => i
  | n + 1, i => if cs.isDigit i then skipDigits cs n (i + 1) else i

def readNumber (cs : Source) (i : Nat) : Except String (Float × Nat) := do
  if cs.isMark i '-' && ! cs.isDigit (i + 1) then complaint cs i "No number after minus sign"
  let j := if cs.isMark i '-' then i + 1 else i
  if cs.isMark j '0' && cs.isDigit (j + 1) then complaint cs j "Unexpected number"
  let j := skipDigits cs cs.size j
  let j ←
    if cs.isMark j '.' then
      if cs.isDigit (j + 1) then pure (skipDigits cs cs.size (j + 1))
      else complaint cs (j + 1) "Unterminated fractional number"
    else pure j
  let j ←
    if cs.isMark j 'e' || cs.isMark j 'E' then
      let k := if cs.isMark (j + 1) '+' || cs.isMark (j + 1) '-' then j + 2 else j + 1
      if cs.isDigit k then pure (skipDigits cs cs.size k)
      else complaint cs k "Exponent part is missing a number"
    else pure j
  return (textNumber (.ofString (cs.textOf i j)), j)

def skipBlanks (cs : Source) : Nat → Nat → Nat
  | 0, i => i
  | n + 1, i =>
    match cs[i]? with
    | some x => if x == 32 || x == 10 || x == 13 || x == 9 then skipBlanks cs n (i + 1) else i
    | none => i

def isNameCode (x : Nat) : Bool :=
  x < 128 && ((Char.ofNat x).isAlphanum || x == 95 || x == 36)

/-- The place after a name. -/
def skipName (cs : Source) : Nat → Nat → Nat
  | 0, i => i
  | n + 1, i => if ((cs[i]?).map isNameCode).getD false then skipName cs n (i + 1) else i

/-- The next word: where it begins, what it is and where it ends. -/
def nextToken (cs : Source) (i : Nat) : Except String (Nat × Token × Nat) := do
  let i := skipBlanks cs cs.size i
  match cs[i]? with
  | none => return (i, .eof, i)
  | some x =>
    if x == 34 then
      let (u, j) ← readText cs (cs.size + 1) (i + 1) #[]
      return (i, .text u, j)
    if cs.isDigit i || x == 45 then
      let (x, j) ← readNumber cs i
      return (i, .number x, j)
    if isNameCode x then
      let j := skipName cs cs.size i
      return (i, .name (cs.textOf i j), j)
    if 128 ≤ x then
      let first := (Units.pushCode #[] x).getD 0 0
      .error ("Unexpected token '" ++ (codedUnit first).lossyString ++ "' in JSON")
    return (i, .mark x, i + 1)

def unexpectedToken {α : Type} (cs : Source) (i j : Nat) : Token → Except String α
  | .eof => endedEarly
  | _ => .error ("unexpected token: '" ++ cs.textOf i j ++ "'")

mutual

/-- A value from its first word on, which has been read already. -/
def readValue (cs : Source) : Nat → Nat × Token × Nat → Except String (Draft × Nat)
  | 0, _ => endedEarly
  | n + 1, (i, t, j) => do
    match t with
    | .text u => return (.text u, j)
    | .number x => return (.number x, j)
    | .name "null" => return (.null, j)
    | .name "true" => return (.bool true, j)
    | .name "false" => return (.bool false, j)
    | .mark 123 =>
      match ← nextToken cs j with
      | (_, .mark 125, k) => return (.object [], k)
      | w => readFields cs n w []
    | .mark 91 =>
      match ← nextToken cs j with
      | (_, .mark 93, k) => return (.array [], k)
      | w => readItems cs n w []
    | _ => unexpectedToken cs i j t

def readItems (cs : Source) : Nat → Nat × Token × Nat → List Draft → Except String (Draft × Nat)
  | 0, _, _ => endedEarly
  | n + 1, w, done => do
    let (v, j) ← readValue cs n w
    match ← nextToken cs j with
    | (_, .mark 93, k) => return (.array (v :: done).reverse, k)
    | (_, .mark 44, k) => readItems cs n (← nextToken cs k) (v :: done)
    | (i, _, _) => complaint cs i "Expected ',' or ']' after array element"

def readFields (cs : Source) : Nat → Nat × Token × Nat → List (Units × Draft) →
    Except String (Draft × Nat)
  | 0, _, _ => endedEarly
  | n + 1, (i, t, j), done => do
    match t with
    | .text u =>
      match ← nextToken cs j with
      | (_, .mark 58, k) =>
        let (v, j) ← readValue cs n (← nextToken cs k)
        match ← nextToken cs j with
        | (_, .mark 125, k) => return (.object ((u, v) :: done).reverse, k)
        | (_, .mark 44, k) => readFields cs n (← nextToken cs k) ((u, v) :: done)
        | (i, _, _) => complaint cs i "Expected ',' or '\x7d' after property value"
      | (i, _, _) => complaint cs i "Expected ':' after property name"
    | _ => complaint cs i "Expected property name or '\x7d'"

end

/-- Reads a whole JSON text. -/
def readDraft (cs : Source) : Except String Draft := do
  let (v, j) ← readValue cs (cs.size + 2) (← nextToken cs 0)
  match ← nextToken cs j with
  | (_, .eof, _) => return v
  | _ => .error "unexpected data at the end"

end Source

mutual

/-- Makes a value that has been read. -/
def Draft.make (s : Store) : Draft → Value × Store
  | .null => (.null, s)
  | .bool b => (.bool b, s)
  | .number x => (.number x, s)
  | .text u => (.text u, s)
  | .array items =>
    let (row, s) := makeItems s items #[]
    let (r, s) := s.allocate
      { prototype := some Intrinsic.arrayPrototype.ref, kind := .array row row.size true }
    (.object r, s)
  | .object fields =>
    let (r, s) := s.allocate { prototype := some Intrinsic.objectPrototype.ref }
    (.object r, makeFields s r fields)

def makeItems (s : Store) : List Draft → Array (Option Value) → Array (Option Value) × Store
  | [], done => (done, s)
  | d :: rest, done =>
    let (v, s) := d.make s
    makeItems s rest (done.push (some v))

def makeFields (s : Store) (r : Ref) : List (Units × Draft) → Store
  | [] => s
  | (u, d) :: rest =>
    let (v, s) := d.make s
    makeFields (s.putOwn r (.ofUnits u) (.plain v)) r rest

end

/-- Gives every value to a function that puts another one in its place, the inner ones first. -/
def revive (f : Value) : Nat → Ref → Key → Exec Value
  | 0, _, _ => stackOverflow
  | n + 1, holder, k => do
    let v ← get holder k
    match v with
    | .object r =>
      let keys ← if ← isArray v then
          pure ((List.range (← lengthOf r)).map Key.index)
        else enumerableKeys r
      forEach
        (fun k => do
          match ← revive f n r k with
          | .undefined =>
            let _ ← deleteOwn r k
          | w =>
            let _ ← define r k (.plain w))
        keys
    | _ => pure ()
    call f (.object holder) [.ofKey k, v]

def parseText (text : Units) : Exec Value := do
  match (Source.ofUnits text).readDraft with
  | .error message => sourceError "<input>" message {}
  | .ok d => modifyGet fun s => d.make s

def json : Holder :=
  { name := "JSON"
    entries := [
      .method "parse" 2 fun _ args => do
        let v ← parseText (← toUnits (nth args 0))
        if ← isCallable (nth args 1) then
          let root ← emptyObject
          modify (·.putOwn root (.text #[]) (.plain v))
          revive (nth args 1) mostDepth root (.text #[])
        else return v,
      .method "stringify" 3 fun _ args => do
        return ((← stringify (nth args 0) (nth args 1) (nth args 2)).map Value.text).getD .undefined,
      .tag "JSON"] }

end CollectionRunner.Script.Library
