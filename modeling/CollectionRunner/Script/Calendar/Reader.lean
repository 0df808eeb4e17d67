import CollectionRunner.Script.Calendar

namespace CollectionRunner.Script.Calendar

/-- What a text says: a month and a day from one on, and minutes to take off for the time zone. -/
structure Reading where
  year : Int := 2001
  month : Int := 1
  day : Int := 1
  hour : Nat := 0
  minute : Nat := 0
  second : Nat := 0
  millisecond : Nat := 0
  zone : Int := 0

namespace Reading

/-- The time that has been said, unless a field is out of its range. -/
def time? (r : Reading) : Option Float :=
  if 12 < r.month || 31 < r.day || 24 < r.hour || 59 < r.minute || 59 < r.second ||
      (r.hour = 24 && (r.minute, r.second, r.millisecond) != (0, 0, 0)) then none
  else
    some (timeOf [intFloat r.year, intFloat (r.month - 1), intFloat r.day, natFloat r.hour,
      natFloat r.minute, natFloat r.second, natFloat r.millisecond] - intFloat (r.zone * 60000))

end Reading

def valueOfDigits (cs : List Char) : Nat := cs.foldl (fun n c => 10 * n + (c.toNat - 48)) 0

/-- Digits at the start of a text, `most` at most; no more than nine, unless they are zeros at the
start. -/
def digits? (least : Nat) (most : Option Nat) (cs : List Char) : Option (List Char × List Char) :=
  let all := cs.takeWhile Char.isDigit
  let taken :=
    match most with
    | some m => all.take m
    | none => all
  if taken.length < least || 9 < (taken.dropWhile (· == '0')).length then none
  else some (taken, cs.drop taken.length)

/-- A number of digits. -/
def number? (least : Nat) (most : Option Nat) (cs : List Char) : Option (Nat × List Char) :=
  (digits? least most cs).map fun (ds, rest) => (valueOfDigits ds, rest)

/-- Goes past a character. -/
def past? (c : Char) : List Char → Option (List Char)
  | d :: rest => if c = d then some rest else none
  | [] => none

/-- The milliseconds of a fraction of a second; a mark counts only before digits. -/
def fraction (cs : List Char) : Nat × List Char :=
  match cs with
  | c :: rest =>
    if c = '.' || c = ',' then
      let ds := (rest.takeWhile Char.isDigit).take 9
      if ds.isEmpty then (0, cs)
      else (valueOfDigits ((ds ++ ['0', '0']).take 3), rest.drop ds.length)
    else (0, cs)
  | [] => (0, cs)

/-- A time zone by its hours and minutes; `strict` allows two or four digits only. -/
def zone? (strict : Bool) (cs : List Char) : Option (Int × List Char) :=
  match cs with
  | 'Z' :: rest => some (0, rest)
  | sign :: rest =>
    if sign = '+' || sign = '-' then do
      let (ds, rest) ← digits? 1 none rest
      if strict && ds.length != 2 && ds.length != 4 then none
      let ds := ds.take (if ds.length ≤ 4 then ds.length else 4 - ds.length % 2)
      let (hours, minutes, rest) ←
        if 2 < ds.length then
          some (valueOfDigits ds / 100, valueOfDigits ds % 100, rest)
        else
          match past? ':' rest with
          | some rest => (number? 2 (some 2) rest).map fun (m, rest) => (valueOfDigits ds, m, rest)
          | none => some (valueOfDigits ds, 0, rest)
      if 23 < hours || 59 < minutes then none
      let total : Int := 60 * hours + minutes
      some (if sign = '+' then total else -total, rest)
    else none
  | [] => none

/-- A month and a day, which may be missing. -/
def monthAndDay (cs : List Char) : Option (Nat × Nat × List Char) :=
  match past? '-' cs with
  | none => some (1, 1, cs)
  | some rest => do
    let (month, rest) ← number? 2 (some 2) rest
    if month = 0 then none
    match past? '-' rest with
    | none => some (month, 1, rest)
    | some rest =>
      let (day, rest) ← number? 2 (some 2) rest
      if day = 0 then none
      some (month, day, rest)

/-- The year, of four digits or of six after a sign. -/
def fullYear? (cs : List Char) : Option (Int × List Char) :=
  match cs with
  | '+' :: rest => (number? 6 (some 6) rest).map fun (y, rest) => ((y : Int), rest)
  | '-' :: rest =>
    match number? 6 (some 6) rest with
    | some (y, rest) => if y = 0 then none else some (-(y : Int), rest)
    | none => none
  | _ => (number? 4 (some 4) cs).map fun (y, rest) => ((y : Int), rest)

/-- What follows an hour and its minute. -/
def seconds? (cs : List Char) : Option (Nat × Nat × List Char) :=
  match past? ':' cs with
  | none => some (0, 0, cs)
  | some rest => do
    let (second, rest) ← number? 2 (some 2) rest
    let (ms, rest) := fraction rest
    some (second, ms, rest)

/-- The form that machines exchange. An hour without a minute is no time. -/
def exchanged? (cs : List Char) : Option Reading := do
  let (year, rest) ← fullYear? cs
  let (month, day, rest) ← monthAndDay rest
  let r : Reading := { year, month, day }
  let ended (r : Reading) (rest : List Char) : Option Reading :=
    if rest.isEmpty then some r
    else
      match zone? true rest with
      | some (zone, []) => some { r with zone }
      | _ => none
  match past? 'T' rest with
  | none => ended r rest
  | some rest =>
    let clock := do
      let (hour, rest) ← number? 2 (some 2) rest
      let rest ← past? ':' rest
      let (minute, rest) ← number? 2 (some 2) rest
      some (hour, minute, rest)
    match clock with
    | none => some { r with hour := 100 }
    | some (hour, minute, rest) =>
      let (second, millisecond, rest) ← seconds? rest
      ended { r with hour, minute, second, millisecond } rest

/-- What a text goes on with after a word, whatever its letters' case. -/
def pastWord? (word : String) (cs : List Char) : Option (List Char) :=
  let n := word.length
  if (cs.take n).map Char.toUpper = word.toList.map Char.toUpper then some (cs.drop n) else none

def monthAt? (cs : List Char) : Option (Nat × List Char) :=
  (monthNames.findIdx? fun m => (pastWord? m cs).isSome).map fun i => (i + 1, cs.drop 3)

/-- Names of time zones, with their minutes. -/
def zoneNames : List (String × Int) :=
  [("GMT", 0), ("UTC", 0), ("UT", 0), ("Z", 0), ("EDT", -240), ("EST", -300), ("CDT", -300),
   ("CST", -360), ("MDT", -360), ("MST", -420), ("PDT", -420), ("PST", -480), ("WET", 0),
   ("WEST", 60), ("CET", 60), ("CEST", 120), ("EET", 120), ("EEST", 180)]

def zoneNameAt? (cs : List Char) : Option (Int × List Char) :=
  zoneNames.firstM fun (name, zone) => (pastWord? name cs).map fun rest => (zone, rest)

/-- A year of two digits lies between 1950 and 2049. -/
def shortYear (n : Nat) : Int := if n < 50 then n + 2000 else if n < 100 then n + 1900 else n

/-- What has been read of a text, part by part. -/
structure Parts where
  reading : Reading := {}
  /-- Numbers that may be days, months or years, the last one first. -/
  numbers : List Nat := []
  hasYear : Bool := false
  hasMonth : Bool := false
  hasTime : Bool := false

namespace Parts

def isFresh (p : Parts) : Bool := p.numbers.isEmpty && ! p.hasYear && ! p.hasMonth && ! p.hasTime

def withYear (p : Parts) (year : Int) : Parts :=
  { p with reading := { p.reading with year }, hasYear := true }

/-- A part in brackets, which may hold others. -/
def pastBrackets : List Char → Nat → Option (List Char)
  | [], level => if level = 0 then some [] else none
  | c :: rest, level =>
    let level := if c = '(' then level + 1 else if c = ')' then level - 1 else level
    if level = 0 then some rest else pastBrackets rest level

/-- The time of day after its hour. -/
def addClock (p : Parts) (hour : Nat) (cs : List Char) : Option (Parts × List Char) := do
  let (minute, rest) ← number? 1 (some 2) cs
  match past? ':' rest with
  | some rest =>
    let (second, rest) ← number? 1 (some 2) rest
    let (ms, rest) := fraction rest
    some
      ({ p with reading := { p.reading with hour, minute, second, millisecond := ms }, hasTime := true },
        rest)
  | none =>
    if rest.isEmpty || rest.head? = some ' ' then
      some ({ p with reading := { p.reading with hour, minute }, hasTime := true }, rest)
    else none

/-- A number that stands by itself. -/
def addNumber (p : Parts) (ds : List Char) : Option Parts :=
  let n := valueOfDigits ds
  if 2 < ds.length then some (p.withYear n)
  else if n < 1 || 31 < n then some (p.withYear (shortYear n))
  else if p.numbers.length = 3 then none
  else some { p with numbers := n :: p.numbers }

/-- A number after a sign: the time zone if there is a time of day, or else a year. -/
def addSigned (p : Parts) (sign : Char) (cs rest : List Char) : Option (Parts × List Char) :=
  match if p.hasTime then zone? false cs else none with
  | some (zone, rest) => some ({ p with reading := { p.reading with zone } }, rest)
  | none =>
    match number? 1 none rest with
    | some (n, rest) =>
      if sign = '+' then some (p.withYear n, rest)
      else if n = 0 then none
      else some (p.withYear (-(n : Int)), rest)
    | none => some (p, rest)

/-- The first half of a day or the second. -/
def addHalf (p : Parts) (cs : List Char) : Option (Option Parts × List Char) :=
  let hour := p.reading.hour
  let withHour (h : Nat) : Parts := { p with reading := { p.reading with hour := h } }
  if ! p.hasTime then none
  else
    match pastWord? "PM" cs, pastWord? "AM" cs with
    | some rest, _ => some (some (withHour (if hour = 12 then 12 else hour + 12)), rest)
    | none, some rest =>
      some (if 12 < hour then none else some (withHour (if hour = 12 then 0 else hour)), rest)
    | none, none => none

/-- Reads one part; the marks after it are still there, unless they do not count. -/
def addPart (p : Parts) (cs : List Char) : Option (Parts × Bool × List Char) := do
  let c ← cs.head?
  let rest := cs.drop 1
  if c = '+' || c = '-' then
    let (p, rest) ← p.addSigned c cs rest
    return (p, true, rest)
  match digits? 1 none cs with
  | some (ds, rest) =>
    match past? ':' rest with
    | some rest =>
      let (p, rest) ← p.addClock (valueOfDigits ds) rest
      return (p, true, rest)
    | none => return (← p.addNumber ds, true, rest)
  | none =>
  match monthAt? cs with
  | some (month, rest) =>
    let rest := rest.dropWhile fun c => ! (c.isDigit || c = ' ' || c = '-' || c = '/' || c = '(')
    return ({ p with reading := { p.reading with month }, hasMonth := true }, true, rest)
  | none =>
  match p.addHalf cs with
  | some (p, rest) => return (← p, false, rest)
  | none =>
  match zoneNameAt? cs with
  | some (zone, rest) => return ({ p with reading := { p.reading with zone } }, false, rest)
  | none =>
    if c = '(' then return (p, true, ← pastBrackets cs 0)
    if c = ')' || ! p.isFresh then none
    return (p, true, cs.dropWhile fun c => ! (c = ' ' || c = '-' || c = '/' || c = '('))

def isSeparator (c : Char) : Bool := c = '-' || c = '/' || c = '.' || c = ','

/-- Reads all parts of a text. -/
def ofText : Nat → Parts → List Char → Option Parts
  | 0, p, _ => some p
  | n + 1, p, cs =>
    match cs.dropWhile (· = ' ') with
    | [] => some p
    | cs =>
      match p.addPart cs with
      | some (p, marked, rest) => ofText n p (if marked then rest.dropWhile isSeparator else rest)
      | none => none

/-- What the numbers stand for: a day after a month, a month and a day, or those and a year. -/
def reading? (p : Parts) : Option Reading := do
  let r := p.reading
  if 3 < p.numbers.length + p.hasYear.toNat + p.hasMonth.toNat then none
  let r ←
    match p.numbers with
    | [] => if p.hasYear then some r else none
    | [a] => some (if p.hasMonth then { r with day := (a : Int) } else { r with month := (a : Int) })
    | [b, a] =>
      some (if p.hasMonth && ! p.hasYear then { r with year := shortYear b, day := (a : Int) }
        else { r with month := (a : Int), day := (b : Int) })
    | [c, b, a] => some { r with year := shortYear c, month := (a : Int), day := (b : Int) }
    | _ => none
  if r.month < 1 || r.day < 1 then none else some r

end Parts

/-- The most characters that are read of a text. -/
def mostRead : Nat := 127

/-- The characters of a text as far as they count. -/
def lettersOf (u : Units) : List Char :=
  ((u.extract 0 mostRead).toList.map fun x =>
    if x.toNat = 0x2212 then '-' else if 255 < x.toNat then 'x' else Char.ofNat x.toNat).takeWhile
      (· != '\x00')

/-- The time that a text says. -/
def parse (u : Units) : Float :=
  let cs := lettersOf u
  let r := (exchanged? cs).or ((Parts.ofText (cs.length + 1) {} cs).bind Parts.reading?)
  (r.bind Reading.time?).getD nan

end CollectionRunner.Script.Calendar
