import CollectionRunner.Json.Value

namespace CollectionRunner.Json

/-- Doubles keep a fraction, and powers of ten are written out from `1e-5` to below `1e16`. -/
def doubleStyle : Decimal.Style := ⟨some (-5, 16), ".0", "+", .both⟩

def Number.doubleText (d : Decimal.Binary64) : String := doubleStyle.text d

def Number.text : Number → String
  | .integer n => toString n
  | .double d => doubleText d

def hexDigit (n : Nat) : Char := "0123456789abcdef".toList.getD n '0'

/-- The characters that stand for one character in a JSON string. -/
def escapedChar (c : Char) : List Char :=
  match c with
  | '"' => ['\\', '"']
  | '\\' => ['\\', '\\']
  | '\n' => ['\\', 'n']
  | '\r' => ['\\', 'r']
  | '\t' => ['\\', 't']
  | '\x08' => ['\\', 'b']
  | '\x0c' => ['\\', 'f']
  | c =>
    if c.toNat < 0x20 then
      ['\\', 'u', '0', '0', hexDigit (c.toNat / 16), hexDigit (c.toNat % 16)]
    else [c]

def stringText (s : String) : String :=
  "\"" ++ String.ofList (s.toList.flatMap escapedChar) ++ "\""

mutual

def Value.compact : Value → String
  | .null => "null"
  | .bool b => if b then "true" else "false"
  | .number n => n.text
  | .string s => stringText s
  | .array items => "[" ++ compactItems items ++ "]"
  | .object fields => "\x7b" ++ compactFields fields ++ "\x7d"

def compactItems : List Value → String
  | [] => ""
  | [v] => v.compact
  | v :: rest => v.compact ++ "," ++ compactItems rest

def compactFields : List (String × Value) → String
  | [] => ""
  | [(k, v)] => stringText k ++ ":" ++ v.compact
  | (k, v) :: rest => stringText k ++ ":" ++ v.compact ++ "," ++ compactFields rest

end

end CollectionRunner.Json
