import CollectionRunner.Decimal.Notation
import CollectionRunner.Script.Units

namespace CollectionRunner.Script

open Decimal

/-- Numbers are written positionally from `1e-6` to below `1e21`, rounded to the fewest digits that
read back. -/
def numberStyle : Style := ⟨some (-6, 21), "", "+", .nearer⟩

def numberText (x : Float) : String :=
  if x.isNaN then "NaN"
  else if x.isInf then (if x < 0.0 then "-Infinity" else "Infinity")
  else if x == 0.0 then "0"
  else numberStyle.text (.ofFloat x)

/-- The whole number nearest to a quotient; a half goes up. -/
def roundHalfUp (num den : Nat) : Nat := (2 * num + den) / (2 * den)

/-- The magnitude of a finite number as a quotient of whole numbers. -/
def quotient (x : Float) : Nat × Nat :=
  let d := Binary64.ofFloat x
  (d.significand * Nat.pow 2 d.scale.toNat, Nat.pow 2 (-d.scale).toNat)

/-- A whole number of units of `10 ^ -places`, written with that many places. -/
def placesText (n places : Nat) : String :=
  let digits := Nat.toDigits 10 n
  if places = 0 then String.ofList digits
  else
    let digits := List.replicate (places + 1 - digits.length) '0' ++ digits
    let whole := digits.length - places
    String.ofList (digits.take whole) ++ "." ++ String.ofList (digits.drop whole)

/-- A finite number below `1e21` with the given number of places. -/
def fixedText (x : Float) (places : Nat) : String :=
  let (num, den) := quotient x
  let n := roundHalfUp (num * Nat.pow 10 places) den
  (if x < 0.0 then "-" else "") ++ placesText n places

/-- The digits of a magnitude other than zero rounded to `count` digits, and the place of the
decimal point from the first digit on. -/
def roundedDigits (num den : Nat) (count : Nat) : Nat × Int :=
  let scaledTo (point : Int) : Nat :=
    let step := point - count
    roundHalfUp (num * Nat.pow 10 (-step).toNat) (den * Nat.pow 10 step.toNat)
  let guess : Int := ((Nat.log2 num : Int) - Nat.log2 den) * 30103 / 100000 - 1
  let below (k : Int) : Bool := num * Nat.pow 10 (-k).toNat < den * Nat.pow 10 k.toNat
  let point := if below guess then guess else if below (guess + 1) then guess + 1
    else if below (guess + 2) then guess + 2 else guess + 3
  let n := scaledTo point
  if n = Nat.pow 10 count then (Nat.pow 10 (count - 1), point + 1) else (n, point)

/-- The exponent form with `places` digits after the point. -/
def exponentText (x : Float) (places : Nat) : String :=
  let sign := if x < 0.0 then "-" else ""
  if x == 0.0 then
    sign ++ "0" ++ (if places = 0 then "" else "." ++ zeros places) ++ "e+0"
  else
    let (num, den) := quotient x
    let (n, point) := roundedDigits num den (places + 1)
    sign ++ scientificText (Nat.toDigits 10 n) point "+"

/-- The exponent form with as many digits as the number needs. -/
def shortestExponentText (x : Float) : String :=
  if x == 0.0 then "0e+0"
  else
    let d := shortest .nearer (.ofFloat x)
    (if x < 0.0 then "-" else "") ++ scientificText (Nat.toDigits 10 d.digits) d.point "+"

/-- The form with `count` digits in all. -/
def precisionText (x : Float) (count : Nat) : String :=
  let sign := if x < 0.0 then "-" else ""
  if x == 0.0 then sign ++ "0" ++ (if count ≤ 1 then "" else "." ++ zeros (count - 1))
  else
    let (num, den) := quotient x
    let (n, point) := roundedDigits num den count
    let digits := Nat.toDigits 10 n
    sign ++ (if point < -5 || (count : Int) < point then scientificText digits point "+"
      else positionalText digits point "")

def digitChar (n : Nat) : Char := "0123456789abcdefghijklmnopqrstuvwxyz".toList.getD n '0'

/-- Digits of a whole number in a base, of which `fuel` bounds the number. -/
def radixDigits (base : Nat) : Nat → Nat → List Char → List Char
  | 0, _, acc => acc
  | fuel + 1, n, acc =>
    if n < base then digitChar n :: acc
    else radixDigits base fuel (n / base) (digitChar (n % base) :: acc)

def natInRadix (base n : Nat) : String := String.ofList (radixDigits base (Nat.log2 n + 1) n [])

def intInRadix (base : Nat) (n : Int) : String :=
  (if n < 0 then "-" else "") ++ natInRadix base n.natAbs

/-- The digits of a whole double beyond those that tell all whole numbers apart, lowest first: only
what the division leaves exact counts, the rest are zeros. -/
def greatDigits (base : Nat) : Nat → Float → List Nat
  | 0, _ => []
  | fuel + 1, x =>
    if x < base.toFloat then [x.toUInt64.toNat]
    else
      let rest := (x / base.toFloat).floor
      let (num, den) := quotient x
      (if 9007199254740991 ≤ rest then 0 else num / den % base) :: greatDigits base fuel rest

/-- Digits of a fraction, the last one first, and what is left of it: as many as tell the whole number
`n` and the digits apart from others. -/
def fractionDigits (base : Nat) : Nat → Float → Nat → Float → List Nat → List Nat × Float
  | 0, rest, _, _, digits => (digits, rest)
  | fuel + 1, rest, n, budget, digits =>
    if rest == 0 || 4503599627370495 < n || budget ≤ 0 then (digits, rest)
    else
      let x := rest * base.toFloat
      let digit := x.floor.toUInt64.toNat
      fractionDigits base fuel (x - x.floor) (n * base + digit) (budget - base.toFloat.log2)
        (digit :: digits)

/-- A finite number in a base other than ten. -/
def radixText (base : Nat) (x : Float) : String :=
  if x.isNaN || x.isInf then numberText x
  else
  let sign := if x < 0.0 then "-" else ""
  let whole := x.abs.floor
  if 9007199254740991 < whole then
    sign ++ String.ofList ((greatDigits base 1100 whole).reverse.map digitChar)
  else
    let n := whole.toUInt64.toNat
    let (digits, rest) := fractionDigits base 1100 (x.abs - whole) n 1074 []
    let (n, digits) :=
      if x.abs == whole then (n, [])
      else if (base / 2).toFloat ≤ rest * base.toFloat then
        match digits.dropWhile (· = base - 1) with
        | [] => (n + 1, [])
        | d :: before => (n, (d + 1) :: before)
      else (n, digits.dropWhile (· = 0))
    sign ++ natInRadix base n ++
      if digits.isEmpty then "" else "." ++ String.ofList (digits.reverse.map digitChar)

def digitValue? (c : Char) : Option Nat :=
  if '0' ≤ c && c ≤ '9' then some (c.toNat - 48)
  else if 'a' ≤ c && c ≤ 'z' then some (c.toNat - 87)
  else if 'A' ≤ c && c ≤ 'Z' then some (c.toNat - 55)
  else none

/-- Digits of a base as far as they go: their value, their number and what follows. -/
def takeRadix (base : Nat) : List Char → Nat → Nat → Nat × Nat × List Char
  | [], value, count => (value, count, [])
  | c :: rest, value, count =>
    match digitValue? c with
    | some d =>
      if d < base then takeRadix base rest (value * base + d) (count + 1)
      else (value, count, c :: rest)
    | none => (value, count, c :: rest)

/-- The double nearest to `digits * 10 ^ exponent`. -/
def decimalFloat (digits : Nat) (exponent : Int) : Float :=
  if digits = 0 then 0.0
  else
    let size := (Nat.toDigits 10 digits).length
    if 310 < (size : Int) + exponent then 1.0 / 0.0
    else if (size : Int) + exponent < -330 then 0.0
    else if 0 ≤ exponent then Float.ofScientific (digits * Nat.pow 10 exponent.toNat) false 0
    else Float.ofScientific digits true (-exponent).toNat

/-- The double nearest to a whole number. -/
def natFloat (n : Nat) : Float :=
  if n < Nat.pow 2 53 then n.toUInt64.toFloat else decimalFloat n 0

def intFloat (n : Int) : Float := if n < 0 then -(natFloat n.natAbs) else natFloat n.natAbs

/-- A decimal number at the start of a text, and what follows it. A point needs a digit on one of
its sides, and a letter of a power of ten counts only before digits. -/
def takeDecimal (cs : List Char) : Option (Float × List Char) :=
  let (whole, wholeCount, rest) := takeRadix 10 cs 0 0
  let (digits, places, rest) :=
    match rest with
    | '.' :: tail =>
      let (d, n, after) := takeRadix 10 tail whole 0
      if wholeCount + n = 0 then (whole, 0, rest) else (d, n, after)
    | _ => (whole, 0, rest)
  if wholeCount + places = 0 then none
  else
    let plain := (decimalFloat digits (-(places : Int)), rest)
    match rest with
    | e :: tail =>
      if e == 'e' || e == 'E' then
        let (negative, tail) :=
          match tail with
          | '-' :: t => (true, t)
          | '+' :: t => (false, t)
          | t => (false, t)
        let (power, n, after) := takeRadix 10 tail 0 0
        if n = 0 then some plain
        else
          let power : Int := if negative then -(power : Int) else power
          some (decimalFloat digits (power - places), after)
      else some plain
    | [] => some plain

def infinity : Float := 1.0 / 0.0

def nan : Float := 0.0 / 0.0

/-- A decimal number with a sign, or a signed infinity, at the start of a text. -/
def takeSignedDecimal (cs : List Char) : Option (Float × List Char) :=
  let unsigned (cs : List Char) : Option (Float × List Char) :=
    if "Infinity".toList.isPrefixOf cs then some (infinity, cs.drop 8) else takeDecimal cs
  match cs with
  | '-' :: rest => (unsigned rest).map fun (f, r) => (-f, r)
  | '+' :: rest => unsigned rest
  | _ => unsigned cs

def radixOfLetter? (c : Char) : Option Nat :=
  match c with
  | 'x' | 'X' => some 16
  | 'o' | 'O' => some 8
  | 'b' | 'B' => some 2
  | _ => none

/-- The number that a whole text is: nothing but spaces is zero, and what is no number is none. -/
def textNumber (u : Units) : Float :=
  let cs := (Units.charsFrom u.trim 0 #[]).toList
  match cs with
  | [] => 0.0
  | '0' :: c :: rest =>
    match radixOfLetter? c with
    | some base =>
      let (value, count, after) := takeRadix base rest 0 0
      if count = 0 || ! after.isEmpty then nan else natFloat value
    | none =>
      match takeSignedDecimal cs with
      | some (f, []) => f
      | _ => nan
  | _ =>
    match takeSignedDecimal cs with
    | some (f, []) => f
    | _ => nan

/-- The number at the start of a text, as far as it goes. -/
def leadingNumber (u : Units) : Float :=
  match takeSignedDecimal (Units.charsFrom u.trimStart 0 #[]).toList with
  | some (f, _) => f
  | none => nan

/-- The whole number at the start of a text in a base; base zero means sixteen after `0x` and ten
otherwise. -/
def leadingInteger (u : Units) (base : Nat) : Float :=
  let cs := (Units.charsFrom u.trimStart 0 #[]).toList
  let (negative, cs) :=
    match cs with
    | '-' :: t => (true, t)
    | '+' :: t => (false, t)
    | t => (false, t)
  let (base, cs) :=
    match cs with
    | '0' :: c :: t =>
      if (c == 'x' || c == 'X') && (base = 0 || base = 16) then (16, t) else (base, cs)
    | _ => (base, cs)
  let base := if base = 0 then 10 else base
  if base < 2 || 36 < base then nan
  else
    let (value, count, _) := takeRadix base cs 0 0
    if count = 0 then nan else if negative then -(natFloat value) else natFloat value

/-- The big whole number that a text is. -/
def textInteger? (u : Units) : Option Int :=
  let whole (cs : List Char) (base : Nat) : Option Nat :=
    let (value, count, after) := takeRadix base cs 0 0
    if count = 0 || ! after.isEmpty then none else some value
  match (Units.charsFrom u.trim 0 #[]).toList with
  | [] => some 0
  | '-' :: rest => (whole rest 10).map fun n => -(n : Int)
  | '+' :: rest => (whole rest 10).map fun n => (n : Int)
  | '0' :: c :: rest =>
    match radixOfLetter? c with
    | some base => (whole rest base).map fun n => (n : Int)
    | none => (whole ('0' :: c :: rest) 10).map fun n => (n : Int)
  | cs => (whole cs 10).map fun n => (n : Int)

def isFinite (x : Float) : Bool := ! (x.isNaN || x.isInf)

/-- Rounds towards zero. -/
def cutOff (x : Float) : Float := if x < 0 then x.ceil else x.floor

/-- The whole number that a finite double is when its fraction is cut off. -/
def truncated (x : Float) : Int :=
  if x.isNaN || x.isInf then 0
  else if x.abs < 9007199254740992.0 then x.toInt64.toInt
  else
    let (num, den) := quotient x
    let n : Int := (num / den : Nat)
    if x < 0.0 then -n else n

/-- The whole number that a double is, if it is one. -/
def wholeNumber? (x : Float) : Option Int :=
  if x.isNaN || x.isInf then none else (Binary64.ofFloat x).toInt?

/-- A double as a whole number of 32 bits that wraps. -/
def toUInt32 (x : Float) : Nat := (truncated x % Int.pow 2 32).toNat

def toInt32 (x : Float) : Int :=
  let n := (toUInt32 x : Int)
  if n < Int.pow 2 31 then n else n - Int.pow 2 32

/-- The array index that a double is, if it is one. -/
def arrayIndex? (x : Float) : Option Nat :=
  if 0.0 ≤ x && x < 4294967295.0 then
    let n := x.toUInt64
    if n.toFloat == x then some n.toNat else none
  else none

/-- The array index that a text is, if it is one in its usual form. -/
def indexOfUnits? (u : Units) : Option Nat :=
  if u.size = 0 || 10 < u.size then none
  else if u.getD 0 0 == 48 then (if u.size = 1 then some 0 else none)
  else if u.all fun x => 48 ≤ x && x ≤ 57 then
    let n := u.foldl (fun n x => n * 10 + (x.toNat - 48)) 0
    if n < 4294967295 then some n else none
  else none

end CollectionRunner.Script
