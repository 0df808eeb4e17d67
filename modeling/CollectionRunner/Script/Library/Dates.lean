import CollectionRunner.Script.Library.Entry
import CollectionRunner.Script.Calendar.Reader

namespace CollectionRunner.Script.Library

open Exec Calendar

/-- What a clock shows that nobody has set. -/
def presentTime : Float := 1767225600000

def thisTime (this : Value) : Exec (Ref × Float) := do
  match this with
  | .object r =>
    match ← kindOf r with
    | .date t => return (r, t)
    | _ => typeError "not a Date object"
  | _ => typeError "not a Date object"

def dateReader (name : String) (f : Int → Value) : Entry :=
  .method name 0 fun this _ => do
    let (_, t) ← thisTime this
    return if t.isNaN then .number nan else f (truncated t)

/-- A method that shows a time. -/
def dateWriter (name : String) (f : Int → String) : Entry :=
  .method name 0 fun this _ => do
    let (_, t) ← thisTime this
    return .ofString (if t.isNaN then "Invalid Date" else f (truncated t))

/-- A reader of one field, under its two names. -/
def fieldReaders (name : String) (f : Fields → Value) : List Entry :=
  [dateReader ("get" ++ name) fun t => f (fieldsOf t),
   dateReader ("getUTC" ++ name) fun t => f (fieldsOf t)]

def setTime (r : Ref) (time : Float) : Exec Value := do
  modify (·.modifyObj r fun o => { o with kind := .date time })
  return .number time

/-- Sets the fields from the `first` one up to the `last` one. A point in time that is none gets
fields only with its year, and a field that is no number changes nothing. -/
def setFields (first last : Nat) : Code := fun this args => do
  let (r, t) ← thisTime this
  let given ← mapEach toNumber (args.take (last + 1 - first)) []
  if (t.isNaN && first != 0) || ! given.all isFinite then return .number nan
  let fields := fieldList (if t.isNaN then 0 else truncated t)
  let changed := fields.take first ++ given.map cutOff ++ fields.drop (first + given.length)
  setTime r (if given.isEmpty then nan else timeOf changed)

def fieldWriters (name : String) (first last : Nat) : List Entry :=
  [.method ("set" ++ name) (last + 1 - first) (setFields first last),
   .method ("setUTC" ++ name) (last + 1 - first) (setFields first last)]

/-- Years up to 99 are those of the last century. -/
def fullYear (x : Float) : Float := if 0 ≤ x && x < 100 then 1900 + x else x

/-- The fields that arguments say, up to one that is no number. -/
def givenFields : List Value → List Float → Exec (Option (List Float))
  | [], done => return some done.reverse
  | v :: rest, done => do
    let x ← toNumber v
    if ! isFinite x then return none
    let x := cutOff x
    givenFields rest ((if done.isEmpty then fullYear x else x) :: done)

def timeFromFields (args : List Value) : Exec Float := do
  match ← givenFields (args.take 7) [] with
  | none | some [] => return nan
  | some fields => return timeOf (fields ++ [0, 0, 1, 0, 0, 0, 0].drop fields.length)

def newDate (args : List Value) (newTarget : Value) : Exec Value := do
  let t ←
    match args with
    | [] => pure presentTime
    | [v] =>
      match v with
      | .object r =>
        match ← kindOf r with
        | .date t => pure t
        | _ => fromPrimitive (← toPrimitive .default v)
      | _ => fromPrimitive v
    | _ => timeFromFields args
  let p ← prototypeFor newTarget .datePrototype
  return .object (← newObject { prototype := some p, kind := .date t })
where
  fromPrimitive (v : Value) : Exec Float := do
    match v with
    | .text u => return clip (Calendar.parse u)
    | _ => return clip (← toNumber v)

def fullText (t : Int) : String := dateText t ++ " " ++ timeText t

def dateConstructor : Constructor :=
  { name := "Date", length := 7, prototype := some .datePrototype
    call := fun _ => return .ofString (fullText (truncated presentTime))
    construct := newDate
    own := [
      .method "now" 0 fun _ _ => return .number presentTime,
      .method "parse" 1 fun _ args => do
        return .number (Calendar.parse (← toUnits (nth args 0))),
      .method "UTC" 7 fun _ args => do return .number (← timeFromFields args)]
    methods := [
      .method "valueOf" 0 fun this _ => do return .number (← thisTime this).2,
      dateWriter "toString" fullText,
      .symbolMethod .toPrimitive "[Symbol.toPrimitive]" 1 fun this args => do
        match this, nth args 0 with
        | .object _, .text u =>
          let hint := u.lossyString
          if hint == "number" || hint == "integer" then firstPrimitive this ["valueOf", "toString"]
          else if hint == "string" || hint == "default" then
            firstPrimitive this ["toString", "valueOf"]
          else typeError "invalid hint"
        | .object _, _ => typeError "invalid hint"
        | _, _ => typeError "not an object",
      dateWriter "toUTCString" utcText, .alias "toGMTString" "toUTCString",
      .method "toISOString" 0 fun this _ => do
        let (_, t) ← thisTime this
        if t.isNaN then rangeError "Date value is NaN"
        return .ofString (isoText (truncated t)),
      dateWriter "toDateString" dateText, dateWriter "toTimeString" timeText,
      dateWriter "toLocaleString" fun t => localeDate t ++ ", " ++ localeTime t,
      dateWriter "toLocaleDateString" localeDate, dateWriter "toLocaleTimeString" localeTime,
      .method "getTimezoneOffset" 0 fun this _ => do
        let (_, t) ← thisTime this
        return .number (if t.isNaN then nan else 0),
      .method "getTime" 0 fun this _ => do return .number (← thisTime this).2,
      dateReader "getYear" fun t => .ofInt ((fieldsOf t).year - 1900)] ++
      fieldReaders "FullYear" (fun f => .ofInt f.year) ++
      fieldReaders "Month" (fun f => .ofNat f.month) ++
      fieldReaders "Date" (fun f => .ofNat f.day) ++
      fieldReaders "Hours" (fun f => .ofNat f.hour) ++
      fieldReaders "Minutes" (fun f => .ofNat f.minute) ++
      fieldReaders "Seconds" (fun f => .ofNat f.second) ++
      fieldReaders "Milliseconds" (fun f => .ofNat f.millisecond) ++
      fieldReaders "Day" (fun f => .ofNat f.weekday) ++
      [.method "setTime" 1 fun this args => do
        let (r, _) ← thisTime this
        setTime r (clip (← toNumber (nth args 0)))] ++
      fieldWriters "Milliseconds" 6 6 ++ fieldWriters "Seconds" 5 6 ++ fieldWriters "Minutes" 4 6 ++
      fieldWriters "Hours" 3 6 ++ fieldWriters "Date" 2 2 ++ fieldWriters "Month" 1 2 ++
      [.method "setYear" 1 fun this args => do
        let (_, _) ← thisTime this
        let y ← toNumber (nth args 0)
        setFields 0 0 this [.number (if isFinite y then fullYear (cutOff y) else y)]] ++
      fieldWriters "FullYear" 0 2 ++ [
      .method "toJSON" 1 (onObject fun r _ => do
        match ← toPrimitive .number (.object r) with
        | .number x => if ! isFinite x then return .null
        | _ => pure ()
        let f ← getNamed r "toISOString"
        if ! (← isCallable f) then typeError "object needs toISOString method"
        call f (.object r) [])] }

/-- The time that scripts can take themselves, which does not go on. -/
def performance : Holder :=
  { name := "performance"
    entries := [
      .method "now" 0 fun _ _ => return .number 0,
      .constant "timeOrigin" (.number presentTime)] }

end CollectionRunner.Script.Library
