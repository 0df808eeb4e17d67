import CollectionRunner.Script.Numeral

namespace CollectionRunner.Script.Calendar

structure Fields where
  year : Int
  /-- From zero on. -/
  month : Nat
  day : Nat
  hour : Nat
  minute : Nat
  second : Nat
  millisecond : Nat
  /-- From Sunday on. -/
  weekday : Nat

/-- The number of days from the start of 1970 to the first day of a month, which may lie in another
year. -/
def daysToMonth (year month : Int) : Int :=
  let y := year + Int.fdiv month 12
  let m := Int.fmod month 12
  let y := if m < 2 then y - 1 else y
  let shifted := Int.fmod (m + 10) 12
  365 * y + Int.fdiv y 4 - Int.fdiv y 100 + Int.fdiv y 400 + Int.fdiv (153 * shifted + 2) 5 - 719468

/-- The year, the month and the day of a number of days. -/
def civil (days : Int) : Int × Nat × Nat :=
  let z := days + 719468
  let era := Int.fdiv z 146097
  let doe := (z - era * 146097).toNat
  let yoe := (doe - doe / 1460 + doe / 36524 - doe / 146096) / 365
  let doy := doe - (365 * yoe + yoe / 4 - yoe / 100)
  let mp := (5 * doy + 2) / 153
  let day := doy - (153 * mp + 2) / 5 + 1
  let month := if mp < 10 then mp + 2 else mp - 10
  let year := (yoe : Int) + era * 400
  (if month < 2 then year + 1 else year, month, day)

def msPerDay : Int := 86400000

def fieldsOf (time : Int) : Fields :=
  let days := Int.fdiv time msPerDay
  let ms := (Int.fmod time msPerDay).toNat
  let (year, month, day) := civil days
  { year, month, day
    hour := ms / 3600000, minute := ms / 60000 % 60, second := ms / 1000 % 60
    millisecond := ms % 1000, weekday := (Int.fmod (days + 4) 7).toNat }

/-- A point in time that is not too far away, as a whole number. -/
def clip (x : Float) : Float :=
  if x.isNaN || 8.64e15 < x.abs then nan else intFloat (truncated x)

/-- The time of a year, a month from zero on, a day, an hour, a minute, a second and a millisecond.
They may go over into one another. -/
def timeOf (fields : List Float) : Float :=
  let field (i : Nat) : Float := fields.getD i 0
  if fields.any fun x => x.isNaN || x.isInf then nan
  else
    let year := field 0 + (field 1 / 12).floor
    if year < -271821 || 275760 < year then nan
    else
      let month := Int.fmod (truncated (field 1)) 12
      let day := intFloat (daysToMonth (truncated year) month) + field 2 - 1
      let time := field 3 * 3600000 + field 4 * 60000 + field 5 * 1000 + field 6
      clip (day * 86400000 + time)

def fieldList (time : Int) : List Float :=
  let f := fieldsOf time
  [intFloat f.year, natFloat f.month, natFloat f.day, natFloat f.hour, natFloat f.minute,
    natFloat f.second, natFloat f.millisecond]

def dayNames : List String := ["Sun", "Mon", "Tue", "Wed", "Thu", "Fri", "Sat"]

def monthNames : List String :=
  ["Jan", "Feb", "Mar", "Apr", "May", "Jun", "Jul", "Aug", "Sep", "Oct", "Nov", "Dec"]

/-- A number with zeros before it up to a width. -/
def padded (width n : Nat) : String :=
  let digits := toString n
  String.ofList (List.replicate (width - digits.length) '0') ++ digits

def yearText (year : Int) : String :=
  (if year < 0 then "-" else "") ++ padded 4 year.natAbs

def isoYear (year : Int) : String :=
  if 0 ≤ year && year ≤ 9999 then padded 4 year.toNat
  else (if year < 0 then "-" else "+") ++ padded 6 year.natAbs

def clockText (f : Fields) : String :=
  padded 2 f.hour ++ ":" ++ padded 2 f.minute ++ ":" ++ padded 2 f.second

def isoText (time : Int) : String :=
  let f := fieldsOf time
  isoYear f.year ++ "-" ++ padded 2 (f.month + 1) ++ "-" ++ padded 2 f.day ++ "T" ++ clockText f ++
    "." ++ padded 3 f.millisecond ++ "Z"

def dateText (time : Int) : String :=
  let f := fieldsOf time
  dayNames.getD f.weekday "" ++ " " ++ monthNames.getD f.month "" ++ " " ++ padded 2 f.day ++ " " ++
    yearText f.year

def timeText (time : Int) : String := clockText (fieldsOf time) ++ " GMT+0000"

def utcText (time : Int) : String :=
  let f := fieldsOf time
  dayNames.getD f.weekday "" ++ ", " ++ padded 2 f.day ++ " " ++ monthNames.getD f.month "" ++ " " ++
    yearText f.year ++ " " ++ clockText f ++ " GMT"

def localeDate (time : Int) : String :=
  let f := fieldsOf time
  padded 2 (f.month + 1) ++ "/" ++ padded 2 f.day ++ "/" ++ yearText f.year

def localeTime (time : Int) : String :=
  let f := fieldsOf time
  padded 2 (if f.hour % 12 = 0 then 12 else f.hour % 12) ++ ":" ++ padded 2 f.minute ++ ":" ++
    padded 2 f.second ++ (if f.hour < 12 then " AM" else " PM")

end CollectionRunner.Script.Calendar
