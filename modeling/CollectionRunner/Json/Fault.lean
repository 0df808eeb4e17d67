import CollectionRunner.Json.Value
import CollectionRunner.Json.Writer
import CollectionRunner.Text.Quoted

namespace CollectionRunner.Json

/-- A place in a text: the line, from 1 on, and the bytes of that line before the place. -/
structure Position where
  line : Nat
  column : Nat
  deriving DecidableEq, Repr, Inhabited

def Position.start : Position := ⟨1, 0⟩

/-- The place one byte further on the same line. -/
def Position.next (p : Position) : Position := ⟨p.line, p.column + 1⟩

/-- What kind of value was found where another one was expected. -/
inductive Found where
  | null
  | bool (b : Bool)
  | number (n : Number)
  | string (s : String)
  | sequence
  | map
  deriving DecidableEq, Repr

def Found.text : Found → String
  | .null => "null"
  | .bool b => if b then "boolean `true`" else "boolean `false`"
  | .number (.integer n) => "integer `" ++ toString n ++ "`"
  | .number (.double d) => "floating point `" ++ Number.doubleText d ++ "`"
  | .string s => "string " ++ Text.quoted s
  | .sequence => "sequence"
  | .map => "map"

/-- The reason why a text is not read. -/
inductive Cause where
  | endInList | endInObject | endInString | endInValue
  | expectedColon | expectedListEnd | expectedObjectEnd | expectedWord | expectedValue
  | invalidEscape | invalidNumber | numberOutOfRange
  | controlCharacter | keyNotString | loneSurrogate | shortSurrogateEscape
  | trailingComma | trailingCharacters | tooDeep
  | wrongType (found : Found) (expected : String)
  | wrongValue (found : Found) (expected : String)
  | wrongLength (length : Nat) (expected : String)
  | missingField (name : String)
  | duplicateField (name : String)
  | noVariant (name : String)
  deriving DecidableEq, Repr

def Cause.text : Cause → String
  | .endInList => "EOF while parsing a list"
  | .endInObject => "EOF while parsing an object"
  | .endInString => "EOF while parsing a string"
  | .endInValue => "EOF while parsing a value"
  | .expectedColon => "expected `:`"
  | .expectedListEnd => "expected `,` or `]`"
  | .expectedObjectEnd => "expected `,` or `\x7d`"
  | .expectedWord => "expected ident"
  | .expectedValue => "expected value"
  | .invalidEscape => "invalid escape"
  | .invalidNumber => "invalid number"
  | .numberOutOfRange => "number out of range"
  | .controlCharacter => "control character (\\u0000-\\u001F) found while parsing a string"
  | .keyNotString => "key must be a string"
  | .loneSurrogate => "lone leading surrogate in hex escape"
  | .shortSurrogateEscape => "unexpected end of hex escape"
  | .trailingComma => "trailing comma"
  | .trailingCharacters => "trailing characters"
  | .tooDeep => "recursion limit exceeded"
  | .wrongType found expected => "invalid type: " ++ found.text ++ ", expected " ++ expected
  | .wrongValue found expected => "invalid value: " ++ found.text ++ ", expected " ++ expected
  | .wrongLength n expected => "invalid length " ++ toString n ++ ", expected " ++ expected
  | .missingField name => "missing field `" ++ name ++ "`"
  | .duplicateField name => "duplicate field `" ++ name ++ "`"
  | .noVariant name => "data did not match any variant of untagged enum " ++ name

/-- A cause, and the place where it was noticed. -/
structure Fault where
  cause : Cause
  place : Option Position
  deriving DecidableEq, Repr

def Fault.at (p : Position) (c : Cause) : Fault := ⟨c, some p⟩

/-- The fault with a place for it, unless it has one. -/
def Fault.placed (p : Position) (f : Fault) : Fault := ⟨f.cause, some (f.place.getD p)⟩

def Fault.message (f : Fault) : String :=
  match f.place with
  | none => f.cause.text
  | some p => f.cause.text ++ " at line " ++ toString p.line ++ " column " ++ toString p.column

end CollectionRunner.Json
