namespace CollectionRunner.Script

abbrev Units := Array UInt16

namespace Units

def ofChar (c : Char) : List UInt16 :=
  if c.toNat < 0x10000 then [c.toNat.toUInt16]
  else
    let n := c.toNat - 0x10000
    [(0xD800 + n / 0x400).toUInt16, (0xDC00 + n % 0x400).toUInt16]

def pushChar (u : Units) (c : Char) : Units :=
  if c.toNat < 0x10000 then u.push c.toNat.toUInt16
  else
    let n := c.toNat - 0x10000
    (u.push (0xD800 + n / 0x400).toUInt16).push (0xDC00 + n % 0x400).toUInt16

def ofChars (cs : List Char) : Units := cs.foldl pushChar #[]

/-- The units of a text. One of one-byte characters is told by its bytes. -/
def ofString (s : String) : Units :=
  let bytes := s.toByteArray.data.toList
  if bytes.all (· < 128) then (bytes.map (·.toUInt16)).toArray else ofChars s.toList

def isHigh (x : UInt16) : Bool := 0xD800 ≤ x && x < 0xDC00

def isLow (x : UInt16) : Bool := 0xDC00 ≤ x && x < 0xE000

/-- The code point of two halves. -/
def pair (high low : UInt16) : Nat :=
  0x10000 + (high.toNat - 0xD800) * 0x400 + (low.toNat - 0xDC00)

/-- The code point at a place and the number of units it takes. A half that stands alone is a code
point of its own. -/
def codeAt (u : Units) (i : Nat) : Nat × Nat :=
  let x := u.getD i 0
  let y := u.getD (i + 1) 0
  if isHigh x && i + 1 < u.size && isLow y then (pair x y, 2) else (x.toNat, 1)

def pushCode (u : Units) (n : Nat) : Units :=
  if n < 0x10000 then u.push n.toUInt16
  else
    let n := n - 0x10000
    (u.push (0xD800 + n / 0x400).toUInt16).push (0xDC00 + n % 0x400).toUInt16

/-- The characters from a place on, added to those before it; a half that stands alone breaks off
with the number of bytes before it. -/
def decodeFrom (u : Units) (i : Nat) (before : String) : Except Nat String :=
  if h : i < u.size then
    let x := u[i]
    if isHigh x then
      if h' : i + 1 < u.size then
        if isLow u[i + 1] then decodeFrom u (i + 2) (before.push (Char.ofNat (pair x u[i + 1])))
        else .error before.utf8ByteSize
      else .error before.utf8ByteSize
    else if isLow x then .error before.utf8ByteSize
    else decodeFrom u (i + 1) (before.push (Char.ofNat x.toNat))
  else .ok before
termination_by u.size - i

/-- The text, unless a half stands alone in it. -/
def decode (u : Units) : Except Nat String := decodeFrom u 0 ""

def toString? (u : Units) : Option String :=
  match decode u with
  | .ok s => some s
  | .error _ => none

/-- The characters from a place on; a half that stands alone becomes the replacement character. -/
def charsFrom (u : Units) (i : Nat) (before : Array Char) : Array Char :=
  if i < u.size then
    let (n, count) := codeAt u i
    let c := if 0xD800 ≤ n && n < 0xE000 then '\uFFFD' else Char.ofNat n
    charsFrom u (i + (if count = 2 then 2 else 1)) (before.push c)
  else before
termination_by u.size - i
decreasing_by split <;> omega

def lossyString (u : Units) : String := String.ofList (charsFrom u 0 #[]).toList

/-- Whether the units from a place on begin with the given ones. -/
def matchesAt (u : Units) (i : Nat) (v : Units) : Bool :=
  i + v.size ≤ u.size && (List.range v.size).all fun j => u.getD (i + j) 0 == v.getD j 0

/-- The first place from `i` on, of the next `fuel` ones, where the other text stands. -/
def indexFrom (u v : Units) (i : Nat) : Nat → Option Nat
  | 0 => none
  | fuel + 1 =>
    if u.size < i + v.size then none
    else if matchesAt u i v then some i
    else indexFrom u v (i + 1) fuel

def indexOf (u v : Units) (start : Nat) : Option Nat := indexFrom u v start (u.size + 1)

/-- The last place up to `i` where the other text stands. -/
def lastIndexFrom (u v : Units) : Nat → Option Nat
  | 0 => if matchesAt u 0 v then some 0 else none
  | i + 1 => if matchesAt u (i + 1) v then some (i + 1) else lastIndexFrom u v i

/-- The order of the units. -/
def compareFrom (u v : Units) (i : Nat) : Nat → Ordering
  | 0 => .eq
  | fuel + 1 =>
    if i < u.size then
      if i < v.size then
        match compare (u.getD i 0) (v.getD i 0) with
        | .eq => compareFrom u v (i + 1) fuel
        | o => o
      else .gt
    else if i < v.size then .lt else .eq

def order (u v : Units) : Ordering := compareFrom u v 0 (u.size + v.size + 1)

/-- Space and line ends as scripts count them. -/
def isSpaceCode (n : Nat) : Bool :=
  (9 ≤ n && n ≤ 13) || n == 0x20 || n == 0xA0 || n == 0x1680 || (0x2000 ≤ n && n ≤ 0x200A) ||
    n == 0x2028 || n == 0x2029 || n == 0x202F || n == 0x205F || n == 0x3000 || n == 0xFEFF

def isSpace (x : UInt16) : Bool := isSpaceCode x.toNat

def spacesFrom (u : Units) : Nat → Nat → Nat
  | 0, i => i
  | fuel + 1, i => if i < u.size && isSpace (u.getD i 0) then spacesFrom u fuel (i + 1) else i

def spacesBefore (u : Units) : Nat → Nat
  | 0 => 0
  | i + 1 => if isSpace (u.getD i 0) then spacesBefore u i else i + 1

def trimStart (u : Units) : Units := u.extract (spacesFrom u u.size 0) u.size

def trimEnd (u : Units) : Units := u.extract 0 (spacesBefore u u.size)

def trim (u : Units) : Units := trimEnd (trimStart u)

/-- The text `count` times. -/
def replicate (u : Units) : Nat → Units → Units
  | 0, acc => acc
  | n + 1, acc => replicate u n (acc ++ u)

end Units

end CollectionRunner.Script
