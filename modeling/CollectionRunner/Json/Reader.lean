import CollectionRunner.Json.Node

namespace CollectionRunner.Json

/-- What is left of a text, and the place reached. -/
structure Cursor where
  rest : List UInt8
  place : Position

namespace Cursor

def ofString (s : String) : Cursor := ⟨s.toUTF8.toList, .start⟩

def peek? (c : Cursor) : Option UInt8 := c.rest.head?

/-- Past the next byte. -/
def advance (c : Cursor) : Cursor :=
  match c.rest with
  | [] => c
  | b :: rest => ⟨rest, if b = 10 then ⟨c.place.line + 1, 0⟩ else c.place.next⟩

/-- The place that covers the next byte, which a message about that byte names. -/
def peekPlace (c : Cursor) : Position := c.advance.place

def isSpace (b : UInt8) : Bool := b == 32 || b == 10 || b == 9 || b == 13

def skipSpacesIn (rest : List UInt8) (place : Position) : Cursor :=
  match rest with
  | [] => ⟨[], place⟩
  | b :: tail =>
    if isSpace b then skipSpacesIn tail (if b = 10 then ⟨place.line + 1, 0⟩ else place.next)
    else ⟨b :: tail, place⟩

def skipSpaces (c : Cursor) : Cursor := skipSpacesIn c.rest c.place

/-- A fault about the next byte. -/
def faultHere (c : Cursor) (cause : Cause) : Fault := .at c.peekPlace cause

/-- A fault about what stands before the cursor. -/
def faultBefore (c : Cursor) (cause : Cause) : Fault := .at c.place cause

end Cursor

def isDigit (b : UInt8) : Bool := 48 ≤ b && b ≤ 57

/-- A scalar that is read: what it is when it is wanted, and how reading goes on when it is not. -/
structure Scanned (α : Type) where
  read : Except Fault α
  skip : Except Fault Cursor

def Scanned.fail {α : Type} (f : Fault) : Scanned α := ⟨.error f, .error f⟩

/-- The largest power of ten that a double holds. -/
def mostPower : Nat := 308

/-- The double `significand * 10 ^ exponent` as the reader finds it: the significand is rounded
first and scaled after that, so that the last digit may differ from the nearest double's. `none`
when the result is too large. -/
def scaled : Nat → Float → Int → Option Float
  | 0, f, _ => some f
  | fuel + 1, f, exponent =>
    if exponent.natAbs ≤ mostPower then
      let power := Float.ofScientific 1 false exponent.natAbs
      if 0 ≤ exponent then
        let g := f * power
        if g.isInf then none else some g
      else some (f / power)
    else if f == 0.0 then some f
    else if 0 ≤ exponent then none
    else scaled fuel (f / Float.ofScientific 1 false mostPower) (exponent + mostPower)

/-- The number with the given sign, significand and power of ten. -/
def scaledNumber (positive : Bool) (significand : Nat) (exponent : Int) : Option Number :=
  let start := significand.toUInt64.toFloat
  (scaled (exponent.natAbs / mostPower + 2) start exponent).map fun f =>
    .double (.ofFloat (if positive then f else -f))

/-- Digits as far as they go, adding each to the number; those that would make it exceed 64 bits
are not taken. The result counts the digits taken. -/
def takeDigits (value count : Nat) (rest : List UInt8) (place : Position) : Nat × Nat × Cursor :=
  match rest with
  | [] => (value, count, ⟨[], place⟩)
  | b :: tail =>
    if isDigit b then
      let grown := value * 10 + (b.toNat - 48)
      if grown < Nat.pow 2 64 then takeDigits grown (count + 1) tail place.next
      else (value, count, ⟨b :: tail, place⟩)
    else (value, count, ⟨b :: tail, place⟩)

/-- Passes over digits and counts them. -/
def dropDigits (count : Nat) (rest : List UInt8) (place : Position) : Nat × Cursor :=
  match rest with
  | [] => (count, ⟨[], place⟩)
  | b :: tail =>
    if isDigit b then dropDigits (count + 1) tail place.next else (count, ⟨b :: tail, place⟩)

/-- The digits of a power of ten, up to the largest power that is told apart. -/
def takePower (value : Nat) (rest : List UInt8) (place : Position) : Nat × Cursor :=
  match rest with
  | [] => (value, ⟨[], place⟩)
  | b :: tail =>
    if isDigit b then
      let grown := value * 10 + (b.toNat - 48)
      if grown < Nat.pow 2 31 then takePower grown tail place.next else (grown, ⟨tail, place.next⟩)
    else (value, ⟨b :: tail, place⟩)

def numberAt (c : Cursor) (n : Option Number) : Except Fault Number :=
  match n with
  | some n => .ok n
  | none => .error (c.faultBefore .numberOutOfRange)

/-- A number from the letter of its power of ten on. -/
def scanPower (positive : Bool) (significand : Nat) (exponent : Int) (c : Cursor) :
    Scanned Number :=
  let c := c.advance
  let negative := c.peek? == some 45
  let c := if negative || c.peek? == some 43 then c.advance else c
  match c.peek? with
  | none => ⟨.error (c.faultBefore .endInValue), .error (c.faultBefore .invalidNumber)⟩
  | some b =>
    if ! isDigit b then .fail (c.advance.faultBefore .invalidNumber)
    else
      let (power, c) := takePower 0 c.rest c.place
      if Nat.pow 2 31 ≤ power then
        let out := (dropDigits 0 c.rest c.place).2
        if significand ≠ 0 && ! negative then ⟨numberAt c none, .ok out⟩
        else ⟨.ok (.double (.ofFloat (if positive then 0.0 else -0.0))), .ok out⟩
      else
        let exponent := if negative then exponent - power else exponent + power
        ⟨numberAt c (scaledNumber positive significand exponent), .ok c⟩

def scanPowerOrEnd (positive : Bool) (significand : Nat) (exponent : Int) (c : Cursor) :
    Scanned Number :=
  match c.peek? with
  | some 101 | some 69 => scanPower positive significand exponent c
  | _ => ⟨numberAt c (scaledNumber positive significand exponent), .ok c⟩

/-- A number from its decimal point on. -/
def scanFraction (positive : Bool) (significand : Nat) (exponent : Int) (c : Cursor) :
    Scanned Number :=
  let c := c.advance
  let (significand, count, c) := takeDigits significand 0 c.rest c.place
  match c.peek? with
  | some b =>
    if isDigit b then
      scanPowerOrEnd positive significand (exponent - count) (dropDigits 0 c.rest c.place).2
    else if count = 0 then .fail (c.faultHere .invalidNumber)
    else scanPowerOrEnd positive significand (exponent - count) c
  | none =>
    if count = 0 then ⟨.error (c.faultHere .endInValue), .error (c.faultHere .invalidNumber)⟩
    else scanPowerOrEnd positive significand (exponent - count) c

/-- What a whole number without point and power is; a negative zero and numbers beyond 64 bits are
doubles. -/
def wholeNumber (positive : Bool) (n : Nat) : Number :=
  if positive then .integer n
  else if 0 < n && n ≤ Nat.pow 2 63 then .integer (-(n : Int))
  else .double (.ofFloat (-(n.toUInt64.toFloat)))

/-- A number after its sign. -/
def scanNumber (positive : Bool) (c : Cursor) : Scanned Number :=
  match c.peek? with
  | some 48 =>
    let c := c.advance
    match c.peek? with
    | some 46 => scanFraction positive 0 0 c
    | some 101 | some 69 => scanPower positive 0 0 c
    | some b =>
      if isDigit b then .fail (c.faultHere .invalidNumber)
      else ⟨.ok (wholeNumber positive 0), .ok c⟩
    | none => ⟨.ok (wholeNumber positive 0), .ok c⟩
  | some b =>
    if ! isDigit b then .fail (c.advance.faultBefore .invalidNumber)
    else
      let (n, _, c) := takeDigits 0 0 c.rest c.place
      match c.peek? with
      | some 46 => scanFraction positive n 0 c
      | some 101 | some 69 => scanPower positive n 0 c
      | some b =>
        if isDigit b then
          let (more, c) := dropDigits 0 c.rest c.place
          match c.peek? with
          | some 46 => scanFraction positive n more c
          | _ => scanPowerOrEnd positive n more c
        else ⟨.ok (wholeNumber positive n), .ok c⟩
      | none => ⟨.ok (wholeNumber positive n), .ok c⟩
  | none => ⟨.error (c.faultBefore .endInValue), .error (c.faultBefore .invalidNumber)⟩

def hexValue? (b : UInt8) : Option Nat :=
  if isDigit b then some (b.toNat - 48)
  else if 97 ≤ b && b ≤ 102 then some (b.toNat - 87)
  else if 65 ≤ b && b ≤ 70 then some (b.toNat - 55)
  else none

/-- Four hexadecimal digits. -/
def takeHex (c : Cursor) : Except Fault (Nat × Cursor) :=
  match c.rest with
  | w :: x :: y :: z :: _ =>
    let c := c.advance.advance.advance.advance
    match hexValue? w, hexValue? x, hexValue? y, hexValue? z with
    | some w, some x, some y, some z => .ok (((w * 16 + x) * 16 + y) * 16 + z, c)
    | _, _, _, _ => .error (c.faultBefore .invalidEscape)
  | rest =>
    let c := rest.foldl (fun c _ => c.advance) c
    .error (c.faultBefore .endInString)

/-- What one escape stands for when it is wanted, and where reading goes on when it is not. -/
def scanEscape (c : Cursor) : Scanned (List UInt8 × Cursor) :=
  let one (b : UInt8) : Scanned (List UInt8 × Cursor) := ⟨.ok ([b], c.advance), .ok c.advance⟩
  match c.peek? with
  | none => .fail (c.faultBefore .endInString)
  | some 34 => one 34
  | some 92 => one 92
  | some 47 => one 47
  | some 98 => one 8
  | some 102 => one 12
  | some 110 => one 10
  | some 114 => one 13
  | some 116 => one 9
  | some 117 =>
    match takeHex c.advance with
    | .error f => .fail f
    | .ok (n, c) =>
      let read : Except Fault (List UInt8 × Cursor) := do
        if 0xDC00 ≤ n && n ≤ 0xDFFF then throw (c.faultBefore .loneSurrogate)
        if n < 0xD800 || 0xDBFF < n then
          return ((String.singleton (Char.ofNat n)).toUTF8.toList, c)
        let follow (c : Cursor) (b : UInt8) : Except Fault Cursor :=
          match c.peek? with
          | none => .error (c.faultBefore .endInString)
          | some d =>
            if d = b then .ok c.advance else .error (c.advance.faultBefore .shortSurrogateEscape)
        let c ← follow c 92
        let c ← follow c 117
        let (m, c) ← takeHex c
        if m < 0xDC00 || 0xDFFF < m then throw (c.faultBefore .loneSurrogate)
        let code := (n - 0xD800) * 0x400 + (m - 0xDC00) + 0x10000
        return ((String.singleton (Char.ofNat code)).toUTF8.toList, c)
      ⟨read, .ok c⟩
  | some _ => .fail (c.advance.faultBefore .invalidEscape)

/-- The bytes of a string up to its closing quote, in reverse. -/
def readString : Nat → List UInt8 → Cursor → Except Fault (List UInt8 × Cursor)
  | 0, _, c => .error (c.faultBefore .endInString)
  | fuel + 1, acc, c =>
    match c.peek? with
    | none => .error (c.faultBefore .endInString)
    | some 34 => .ok (acc, c.advance)
    | some 92 => do
      let (bytes, c) ← (scanEscape c.advance).read
      readString fuel (bytes.reverse ++ acc) c
    | some b =>
      if b < 32 then .error (c.advance.faultBefore .controlCharacter)
      else readString fuel (b :: acc) c.advance

def skipString : Nat → Cursor → Except Fault Cursor
  | 0, c => .error (c.faultBefore .endInString)
  | fuel + 1, c =>
    match c.peek? with
    | none => .error (c.faultBefore .endInString)
    | some 34 => .ok c.advance
    | some 92 => do
      let c ← (scanEscape c.advance).skip
      skipString fuel c
    | some b =>
      if b < 32 then .error (c.faultBefore .controlCharacter) else skipString fuel c.advance

/-- The text of bytes that stand in reverse; they are cut from a text, at its escapes. -/
def textOfReversed (bytes : List UInt8) : String :=
  (String.fromUTF8? ⟨bytes.reverse.toArray⟩).getD ""

/-- A string after its opening quote. -/
def scanString (c : Cursor) : Scanned String :=
  let fuel := c.rest.length + 1
  ⟨(readString fuel [] c).map fun (bytes, _) => textOfReversed bytes, skipString fuel c⟩

/-- The place that the container around a value has reached once it gives up after the value:
behind its closing bracket if that comes next, else before what comes next. -/
def giveUpPlace (closing : UInt8) (c : Cursor) : Position :=
  let c := c.skipSpaces
  if c.peek? == some closing then c.advance.place
  else if closing = 93 && c.peek? == some 44 then c.advance.skipSpaces.place
  else c.place

/-- The container that a value stands in, by its closing bracket. -/
abbrev Closing := Option UInt8

def spanOf (start mark : Position) (closing : Closing) (after : Cursor) : Span :=
  ⟨start, mark, match closing with
    | some b => giveUpPlace b after
    | none => after.place⟩

/-- The rest of a word such as `null`. -/
def takeWord : List UInt8 → Cursor → Except Fault Cursor
  | [], c => .ok c
  | b :: word, c =>
    match c.peek? with
    | none => .error (c.faultBefore .endInValue)
    | some d =>
      if d = b then takeWord word c.advance else .error (c.advance.faultBefore .expectedWord)

def scalarNode {α : Type} (start : Position) (closing : Closing) (scanned : Scanned α)
    (make : Span → Except Fault α → Node) : Node × Option Cursor :=
  match scanned.skip with
  | .ok after => (make (spanOf start after.place closing after) scanned.read, some after)
  | .error skip =>
    match scanned.read with
    | .error read => (.broken read skip, none)
    | .ok _ => (.broken skip skip, none)

def wordNode (start : Position) (closing : Closing) (word : List UInt8) (c : Cursor)
    (make : Span → Node) : Node × Option Cursor :=
  match takeWord word c with
  | .ok after => (make (spanOf start after.place closing after), some after)
  | .error f => (.broken f f, none)

/-- The ending of a container that is read completely, or cut off for being too deep. -/
def deepEnding (deep : Bool) (start : Position) (ending : Ending) : Ending :=
  if deep then
    .broken (.at start.next .tooDeep) (match ending with
      | .closed _ => none
      | .broken _ skip => skip)
  else ending

/-- How deep containers may nest where their members are wanted; those that are passed over have no
limit. -/
def depthLimit : Nat := 128

mutual

/-- The value at the cursor, and the rest of the text unless the value is broken. The depth is the
number of containers around the value. -/
def readNode : Nat → Nat → Closing → Cursor → Node × Option Cursor
  | 0, _, _, c => (.broken (c.faultHere .endInValue) (c.faultHere .endInValue), none)
  | fuel + 1, depth, closing, c =>
    let c := c.skipSpaces
    let start := c.place
    let broken (cause : Cause) : Node × Option Cursor :=
      (.broken (c.faultHere cause) (c.faultHere cause), none)
    match c.peek? with
    | none => broken .endInValue
    | some 110 => wordNode start closing [117, 108, 108] c.advance .null
    | some 116 => wordNode start closing [114, 117, 101] c.advance (.bool · true)
    | some 102 => wordNode start closing [97, 108, 115, 101] c.advance (.bool · false)
    | some 45 => scalarNode start closing (scanNumber false c.advance) .number
    | some 34 => scalarNode start closing (scanString c.advance) .string
    | some 91 =>
      let deep := depthLimit ≤ depth + 1
      let (items, ending, after) := readItems fuel (depth + 1) true c.advance
      let span := spanOf start start closing (after.getD c)
      (.array span (if deep then [] else items)
        (deepEnding deep start (if deep then endingOf items ending else ending)), after)
    | some 123 =>
      let deep := depthLimit ≤ depth + 1
      let (fields, ending, after) := readFields fuel (depth + 1) true c.advance
      let span := spanOf start start closing (after.getD c)
      let ending := if deep then endingOf (fields.map (·.2)) ending else ending
      (.object span (if deep then [] else fields) (deepEnding deep start ending), after)
    | some b =>
      if isDigit b then scalarNode start closing (scanNumber true c) .number
      else broken .expectedValue
where
  /-- The ending of members of which the last may be broken itself. -/
  endingOf (items : List Node) (ending : Ending) : Ending :=
    match Node.skipItems items with
    | .ok _ => ending
    | .error f => .broken f (some f)

/-- The members of an array from the cursor on. -/
def readItems : Nat → Nat → Bool → Cursor → List Node × Ending × Option Cursor
  | 0, _, _, c => ([], .broken (c.faultHere .endInList) (some (c.faultHere .endInList)), none)
  | fuel + 1, depth, first, c =>
    let c := c.skipSpaces
    let broken (c : Cursor) (read skip : Cause) : List Node × Ending × Option Cursor :=
      ([], .broken (c.faultHere read) (some (c.faultHere skip)), none)
    let item (c : Cursor) : List Node × Ending × Option Cursor :=
      match readNode fuel depth (some 93) c with
      | (node, none) => ([node], .closed default, none)
      | (node, some after) =>
        let (rest, ending, after) := readItems fuel depth false after
        (node :: rest, ending, after)
    match c.peek? with
    | none => broken c .endInList .endInList
    | some 93 => ([], .closed c.advance.place, some c.advance)
    | some b =>
      if first then item c
      else if b = 44 then
        let c := c.advance.skipSpaces
        match c.peek? with
        | none => broken c .endInValue .endInValue
        | some 93 => broken c .trailingComma .expectedValue
        | some _ => item c
      else broken c .expectedListEnd .expectedListEnd

/-- The members of an object from the cursor on. -/
def readFields : Nat → Nat → Bool → Cursor → List (Key × Node) × Ending × Option Cursor
  | 0, _, _, c => ([], .broken (c.faultHere .endInObject) (some (c.faultHere .endInObject)), none)
  | fuel + 1, depth, first, c =>
    let c := c.skipSpaces
    let broken (c : Cursor) (read skip : Cause) : List (Key × Node) × Ending × Option Cursor :=
      ([], .broken (c.faultHere read) (some (c.faultHere skip)), none)
    let field (c : Cursor) : List (Key × Node) × Ending × Option Cursor :=
      let scanned := scanString c.advance
      match scanned.skip with
      | .error skip =>
        let read := match scanned.read with
          | .error read => read
          | .ok _ => skip
        ([], .broken read (some skip), none)
      | .ok after =>
        let key : Key := ⟨scanned.read, giveUpPlace 125 after⟩
        let after := after.skipSpaces
        let (node, rest) := match after.peek? with
          | some 58 => readNode fuel depth (some 125) after.advance
          | some _ =>
            (.broken (after.faultHere .expectedColon) (after.faultHere .expectedColon), none)
          | none => (.broken (after.faultHere .endInObject) (after.faultHere .endInObject), none)
        match rest with
        | none => ([(key, node)], .closed default, none)
        | some rest =>
          let (fields, ending, rest) := readFields fuel depth false rest
          ((key, node) :: fields, ending, rest)
    match c.peek? with
    | none => broken c .endInObject .endInObject
    | some 125 => ([], .closed c.advance.place, some c.advance)
    | some b =>
      if first then if b = 34 then field c else broken c .keyNotString .keyNotString
      else if b = 44 then
        let c := c.advance.skipSpaces
        match c.peek? with
        | none => broken c .endInValue .endInObject
        | some 34 => field c
        | some 125 => broken c .trailingComma .keyNotString
        | some _ => broken c .keyNotString .keyNotString
      else broken c .expectedObjectEnd .expectedObjectEnd

end

/-- The syntax tree of a text, and what follows the value in it. -/
def Node.ofString (s : String) : Node × Option Cursor :=
  let c := Cursor.ofString s
  readNode (2 * c.rest.length + 2) 0 none c

/-- Reads a whole text with a given reading of its tree; nothing but space may follow. -/
def readText {α : Type} (read : Node → Except Fault α) (s : String) : Except Fault α := do
  let (node, after) := Node.ofString s
  let result ← read node
  match after with
  | none => return result
  | some after =>
    let after := after.skipSpaces
    if after.rest.isEmpty then return result
    else throw (after.faultHere .trailingCharacters)

/-- The value that a text holds. -/
def parse (s : String) : Except Fault Value := readText Node.value s

end CollectionRunner.Json
