import CollectionRunner.Json.Writer
import CollectionRunner.Text.Quoted

namespace CollectionRunner.Log

inductive Level where
  | error
  | warn
  | info
  | debug
  | trace
  deriving DecidableEq, Repr

namespace Level

/-- How much is logged at a level; each level includes those of a lower rank. -/
def rank : Level → Nat
  | .error => 1
  | .warn => 2
  | .info => 3
  | .debug => 4
  | .trace => 5

def name : Level → String
  | .error => "ERROR"
  | .warn => "WARN"
  | .info => "INFO"
  | .debug => "DEBUG"
  | .trace => "TRACE"

/-- The name with blanks before it, as wide as the longest of them. -/
def aligned (l : Level) : String :=
  String.ofList (List.replicate (5 - l.name.length) ' ') ++ l.name

end Level

/-- A datum that a record carries. -/
inductive Datum where
  /-- A text that is shown as it is. -/
  | plain (text : String)
  /-- A text that is shown in quotes. -/
  | quoted (text : String)
  | number (n : Nat)
  | truth (b : Bool)
  deriving DecidableEq, Repr

def truthText (b : Bool) : String := if b then "true" else "false"

namespace Datum

def text : Datum → String
  | .plain s => s
  | .quoted s => Text.quoted s
  | .number n => toString n
  | .truth b => truthText b

def json : Datum → String
  | .plain s | .quoted s => Json.stringText s
  | .number n => toString n
  | .truth b => truthText b

end Datum

/-- One record; its target tells where in the program it comes from. -/
structure Record where
  level : Level
  target : String
  message : String
  fields : List (String × Datum) := []
  deriving DecidableEq, Repr

/-- A character of a message; those that could steer a terminal are spelled out. -/
def visibleChar (c : Char) : List Char :=
  match c with
  | '\x1b' => ['\\', 'x', '1', 'b']
  | '\x07' => ['\\', 'x', '0', '7']
  | '\x08' => ['\\', 'x', '0', '8']
  | '\x0c' => ['\\', 'x', '0', 'c']
  | '\x7f' => ['\\', 'x', '7', 'f']
  | c =>
    if 0x80 ≤ c.toNat && c.toNat ≤ 0x9F then
      ['\\', 'u', '\x7b'] ++ Nat.toDigits 16 c.toNat ++ ['\x7d']
    else [c]

namespace Record

/-- The line to be read by people. -/
def text (time : String) (r : Record) : String :=
  time ++ " " ++ r.level.aligned ++ " " ++ String.ofList (r.message.toList.flatMap visibleChar) ++
    String.join (r.fields.map fun (key, d) => " " ++ key ++ "=" ++ d.text)

/-- A JSON object whose members are written as given. -/
def jsonObject (members : List (String × String)) : String :=
  "\x7b" ++ String.intercalate "," (members.map fun (key, v) => Json.stringText key ++ ":" ++ v) ++
    "\x7d"

/-- The line to be read by programs. -/
def json (time : String) (r : Record) : String :=
  let fields := ("message", Json.stringText r.message) :: r.fields.map fun (key, d) => (key, d.json)
  jsonObject
    [("timestamp", Json.stringText time), ("level", Json.stringText r.level.name),
     ("fields", jsonObject fields)]

end Record

/-- How records are written. -/
inductive Format where
  | text
  | json
  deriving DecidableEq, Repr

def Format.line (time : String) (r : Record) : Format → String
  | .text => r.text time
  | .json => r.json time

end CollectionRunner.Log
