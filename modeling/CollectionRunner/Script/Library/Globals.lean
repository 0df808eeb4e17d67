import CollectionRunner.Script.Library.Entry
import CollectionRunner.Text.Utf8

namespace CollectionRunner.Script.Library

open Exec

def hexDigits : List Char := "0123456789ABCDEF".toList

/-- A byte after a percent sign. -/
def escapedByte (n : Nat) : Units :=
  .ofChars ['%', hexDigits.getD (n / 16) '0', hexDigits.getD (n % 16) '0']

def isWordUnit (x : UInt16) : Bool :=
  (48 ≤ x && x ≤ 57) || (65 ≤ x && x ≤ 90) || (97 ≤ x && x ≤ 122) || x == 95

def isOneOf (marks : String) (x : UInt16) : Bool := marks.toList.any (·.toNat == x.toNat)

/-- Escapes everything but letters, digits and some marks by the bytes of its characters. -/
def encodeFrom (keeps : UInt16 → Bool) (u : Units) : Nat → Nat → Units → Exec Units
  | 0, _, done => return done
  | n + 1, i, done => do
    if u.size ≤ i then return done
    let x := u.getD i 0
    if keeps x then encodeFrom keeps u n (i + 1) (done.push x)
    else
      let (code, count) := u.codeAt i
      if 0xD800 ≤ code && code < 0xE000 then
        throwNew .uriErrorPrototype
          (if Units.isLow x then "invalid character" else "expecting surrogate pair")
      let bytes := (String.singleton (Char.ofNat code)).toUTF8.toList
      encodeFrom keeps u n (i + count) (bytes.foldl (fun d b => d ++ escapedByte b.toNat) done)

def encodeText (marks : String) : Code := fun _ args => do
  let u ← toUnits (nth args 0)
  return .text (← encodeFrom (fun x => isWordUnit x || isOneOf marks x) u (u.size + 1) 0 #[])

def hexUnit? (u : Units) (i : Nat) : Option Nat :=
  let x := (u.getD i 0).toNat
  if 48 ≤ x && x ≤ 57 then some (x - 48)
  else if 65 ≤ x && x ≤ 70 then some (x - 55)
  else if 97 ≤ x && x ≤ 102 then some (x - 87)
  else none

def hexByte? (u : Units) (i : Nat) : Option Nat :=
  match hexUnit? u i, hexUnit? u (i + 1) with
  | some a, some b => some (16 * a + b)
  | _, _ => none

def uriError {α : Type} (message : String) : Exec α := throwNew .uriErrorPrototype message

/-- The byte after a percent sign. -/
def percentByte (u : Units) (i : Nat) : Exec Nat := do
  if u.getD i 0 != 37 then uriError "expecting %"
  match hexByte? u (i + 1) with
  | some b => return b
  | none => uriError "expecting hex digit"

/-- The rest of a character of several bytes. -/
def continuation (u : Units) : Nat → Nat → Nat → Exec Nat
  | 0, _, code => return code
  | n + 1, i, code => do
    let b ← percentByte u i
    if b / 64 != 2 then uriError "malformed UTF-8"
    continuation u n (i + 3) (code * 64 + b % 64)

def decodeFrom (keeps : UInt16 → Bool) (u : Units) : Nat → Nat → Units → Exec Units
  | 0, _, done => return done
  | n + 1, i, done => do
    if u.size ≤ i then return done
    let x := u.getD i 0
    if x != 37 then decodeFrom keeps u n (i + 1) (done.push x)
    else
      let b ← percentByte u i
      if b < 128 then
        if keeps b.toUInt16 then
          decodeFrom keeps u n (i + 3) (done ++ u.extract i (i + 3))
        else decodeFrom keeps u n (i + 3) (done.push b.toUInt16)
      else
        let (more, first, least) :=
          if 0xC0 ≤ b && b ≤ 0xDF then (1, b % 32, 0x80)
          else if 0xE0 ≤ b && b ≤ 0xEF then (2, b % 16, 0x800)
          else if 0xF0 ≤ b && b ≤ 0xF7 then (3, b % 8, 0x10000)
          else (0, 0, 1)
        let code ← continuation u more (i + 3) first
        if code < least || 0x10FFFF < code || (0xD800 ≤ code && code < 0xE000) then
          uriError "malformed UTF-8"
        decodeFrom keeps u n (i + 3 * (more + 1)) (done.pushCode code)

def decodeText (marks : String) : Code := fun _ args => do
  let u ← toUnits (nth args 0)
  return .text (← decodeFrom (isOneOf marks) u (u.size + 1) 0 #[])

def escapeUnit (x : UInt16) : Units :=
  if isWordUnit x || isOneOf "@*+-./" x then #[x]
  else if x < 256 then escapedByte x.toNat
  else .ofString "%u" ++ (escapedByte (x.toNat / 256)).extract 1 3 ++
    (escapedByte (x.toNat % 256)).extract 1 3

def unescapeFrom (u : Units) : Nat → Nat → Units → Units
  | 0, _, done => done
  | n + 1, i, done =>
    if u.size ≤ i then done
    else if u.getD i 0 == 37 then
      if u.getD (i + 1) 0 == 117 then
        match hexByte? u (i + 2), hexByte? u (i + 4) with
        | some a, some b => unescapeFrom u n (i + 6) (done.push (256 * a + b).toUInt16)
        | _, _ => unescapeFrom u n (i + 1) (done.push 37)
      else
        match hexByte? u (i + 1) with
        | some b => unescapeFrom u n (i + 3) (done.push b.toUInt16)
        | none => unescapeFrom u n (i + 1) (done.push 37)
    else unescapeFrom u n (i + 1) (done.push (u.getD i 0))

def uriMarks : String := ";/?:@&=+$,#"

def componentMarks : String := "-.!~*'()"

def parseIntCode : Code := fun _ args => do
  let u ← toUnits (nth args 0)
  let base := toInt32 (← toNumber (nth args 1))
  if base < 0 then return .number nan
  return .number (leadingInteger u base.toNat)

def parseFloatCode : Code := fun _ args => do
  return .number (leadingNumber (← toUnits (nth args 0)))

def globals : List Entry :=
  [.method "parseInt" 2 parseIntCode,
   .method "parseFloat" 1 parseFloatCode,
   .method "isNaN" 1 fun _ args => do return .bool (← toNumber (nth args 0)).isNaN,
   .method "isFinite" 1 fun _ args => do
     let x ← toNumber (nth args 0)
     return .bool ! (x.isNaN || x.isInf),
   .method "decodeURI" 1 (decodeText uriMarks),
   .method "decodeURIComponent" 1 (decodeText ""),
   .method "encodeURI" 1 (encodeText (uriMarks ++ componentMarks)),
   .method "encodeURIComponent" 1 (encodeText componentMarks),
   .method "escape" 1 fun _ args => do
     let u ← toUnits (nth args 0)
     return .text (u.foldl (fun d x => d ++ escapeUnit x) #[]),
   .method "unescape" 1 fun _ args => do
     let u ← toUnits (nth args 0)
     return .text (unescapeFrom u (u.size + 1) 0 #[]),
   -- What is queued is never done: a script's time is over by then.
   .method "queueMicrotask" 1 fun _ args => do
     let _ ← callback (nth args 0)
     return .undefined,
   .constant "Infinity" (.number infinity),
   .constant "NaN" (.number nan),
   .constant "undefined" .undefined]

end CollectionRunner.Script.Library
