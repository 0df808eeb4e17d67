import CollectionRunner.Script.Term
import CollectionRunner.Script.Alphabet

namespace CollectionRunner.Script

inductive Token where
  | eof
  | number (x : Float)
  | big (n : Int)
  | text (u : Units)
  /-- A part of a template as written, and whether the template ends with it. -/
  | template (raw : List Char) (last : Bool)
  /-- A name; one that spells a reserved word with an escape is reserved. -/
  | name (s : String) (reserved : Bool)
  | keyword (s : String)
  | hidden (s : String)
  | mark (s : String)
  deriving Inhabited

def Token.isMark (t : Token) (m : String) : Bool :=
  match t with
  | .mark n => n == m
  | _ => false

def Token.isKeyword (t : Token) (k : String) : Bool :=
  match t with
  | .keyword n => n == k
  | _ => false

/-- Whether a word is a name that has a meaning in some places only. -/
def Token.isWord (t : Token) (w : String) : Bool :=
  match t with
  | .name n false => n == w
  | _ => false

def Token.isFreeName (t : Token) : Bool :=
  match t with
  | .name _ false => true
  | _ => false

/-- A word, where it starts and stops, and whether a line ends before it. -/
structure Lexeme where
  token : Token := .eof
  start : Nat := 0
  stop : Nat := 0
  afterLine : Bool := false
  deriving Inhabited

/-- Words that never name a variable. -/
def keywords : List String :=
  ["null", "false", "true", "if", "else", "return", "var", "this", "delete", "void", "typeof",
   "new", "in", "instanceof", "do", "while", "for", "break", "continue", "switch", "case",
   "default", "throw", "try", "catch", "finally", "function", "debugger", "with", "class", "const",
   "enum", "export", "extends", "import", "super"]

/-- Words that name no variable in strict code. -/
def strictKeywords : List String :=
  ["implements", "interface", "let", "package", "private", "protected", "public", "static", "yield"]

def isNameStart (c : Char) : Bool := Alphabet.isNameStart c.toNat

def isNamePart (c : Char) : Bool := Alphabet.isNamePart c.toNat

namespace Lexer

abbrev Source := Array Char

/-- What the place of a word decides: whether the code is strict, and whether `await` and `yield`
are reserved. -/
structure Mode where
  strict : Bool := true
  awaits : Bool := false
  yields : Bool := false
  deriving DecidableEq, Inhabited

def Mode.reserves (m : Mode) (s : String) : Bool :=
  keywords.contains s || (m.strict && strictKeywords.contains s) || (m.awaits && s == "await") ||
    (m.yields && s == "yield")

def at? (src : Source) (i : Nat) : Option Char := src[i]?

def charAt (src : Source) (i : Nat) : Char := src.getD i '\x00'

def isLineEnd (c : Char) : Bool := c == '\n' || c == '\r' || c == '\u2028' || c == '\u2029'

def slice (src : Source) (start stop : Nat) : List Char := (src.extract start stop).toList

/-- The end of the line. -/
def lineEnd (src : Source) : Nat → Nat → Nat
  | 0, i => i
  | fuel + 1, i =>
    if i < src.size && ! isLineEnd (charAt src i) then lineEnd src fuel (i + 1) else i

/-- The end of a comment, and whether a line ends in it. -/
def commentEnd (src : Source) : Nat → Nat → Bool → Option (Nat × Bool)
  | 0, _, _ => none
  | fuel + 1, i, line =>
    if src.size ≤ i then none
    else if charAt src i == '*' && charAt src (i + 1) == '/' then some (i + 2, line)
    else commentEnd src fuel (i + 1) (line || isLineEnd (charAt src i))

/-- The next place that is neither space nor comment, and whether a line ends before it. -/
def skipSpace (src : Source) : Nat → Nat → Bool → Except String (Nat × Bool)
  | 0, i, line => .ok (i, line)
  | fuel + 1, i, line =>
    if src.size ≤ i then .ok (i, line)
    else
      let c := charAt src i
      if isLineEnd c then skipSpace src fuel (i + 1) true
      else if Units.isSpaceCode c.toNat then skipSpace src fuel (i + 1) line
      else if c == '/' && charAt src (i + 1) == '/' then
        skipSpace src fuel (lineEnd src src.size (i + 2)) line
      else if c == '/' && charAt src (i + 1) == '*' then
        match commentEnd src (src.size + 1) (i + 2) false with
        | some (j, ended) => skipSpace src fuel j (line || ended)
        | none => .error "unexpected end of comment"
      else if c == '<' && charAt src (i + 1) == '!' && charAt src (i + 2) == '-' &&
          charAt src (i + 3) == '-' then
        skipSpace src fuel (lineEnd src src.size (i + 4)) line
      else if c == '-' && charAt src (i + 1) == '-' && charAt src (i + 2) == '>' && line then
        skipSpace src fuel (lineEnd src src.size (i + 3)) line
      else .ok (i, line)

/-- Exactly `count` hexadecimal digits. -/
def hexDigits (src : Source) : Nat → Nat → Nat → Option (Nat × Nat)
  | 0, i, value => some (value, i)
  | count + 1, i, value =>
    match digitValue? (charAt src i) with
    | some d => if d < 16 then hexDigits src count (i + 1) (value * 16 + d) else none
    | none => none

/-- Hexadecimal digits up to a closing brace. -/
def bracedDigits (src : Source) : Nat → Nat → Nat → Nat → Option (Nat × Nat)
  | 0, _, _, _ => none
  | fuel + 1, i, value, count =>
    if charAt src i == '\x7d' then (if count = 0 then none else some (value, i + 1))
    else
      match digitValue? (charAt src i) with
      | some d =>
        let value := value * 16 + d
        if d < 16 && value < 0x110000 then bracedDigits src fuel (i + 1) value (count + 1) else none
      | none => none

/-- The code of an escape after its `u`, and the place after it. -/
def unicodeEscape (src : Source) (i : Nat) : Option (Nat × Nat) :=
  if charAt src i == '\x7b' then bracedDigits src src.size (i + 1) 0 0
  else hexDigits src 4 i 0

/-- The value of an escape in octal digits: three of them at most, below 256. -/
def octalEscape (src : Source) : Nat → Nat → Nat → Nat × Nat
  | 0, i, value => (value, i)
  | count + 1, i, value =>
    match digitValue? (charAt src i) with
    | some d =>
      if d < 8 && value * 8 + d < 256 then octalEscape src count (i + 1) (value * 8 + d)
      else (value, i)
    | none => (value, i)

/-- Where an escape stands: in a text of strict code or of other code, or in a template. -/
inductive EscapeSite where
  | strict
  | loose
  | template
  deriving DecidableEq

/-- What an escape stands for, from the character after the backslash on: some units, and the place
after it. -/
def escape (src : Source) (i : Nat) (site : EscapeSite) : Except String (Units × Nat) :=
  let c := charAt src i
  let one (n : Nat) : Except String (Units × Nat) := .ok (#[n.toUInt16], i + 1)
  match c with
  | 'n' => one 10
  | 't' => one 9
  | 'r' => one 13
  | 'b' => one 8
  | 'f' => one 12
  | 'v' => one 11
  | '\r' => .ok (#[], if charAt src (i + 1) == '\n' then i + 2 else i + 1)
  | '\n' | '\u2028' | '\u2029' => .ok (#[], i + 1)
  | 'x' =>
    match hexDigits src 2 (i + 1) 0 with
    | some (n, j) => .ok (#[n.toUInt16], j)
    | none => .error "Invalid hexadecimal escape sequence"
  | 'u' =>
    match unicodeEscape src (i + 1) with
    | some (n, j) => .ok (Units.pushCode #[] n, j)
    | none => .error "Invalid Unicode escape sequence"
  | c =>
    if c == '0' && ! (charAt src (i + 1)).isDigit then one 0
    else if c.isDigit && site != .loose then
      .error ((if '8' ≤ c then "\\8 and \\9" else "Octal escape sequences") ++
        " are not allowed in " ++ (if site = .template then "template strings" else "strict mode"))
    else if '0' ≤ c && c ≤ '7' then
      let (n, j) := octalEscape src 3 i 0
      .ok (#[n.toUInt16], j)
    else .ok (Units.pushChar #[] c, i + 1)

/-- A text between quotes, from after the first one on. -/
def textFrom (src : Source) (quote : Char) (site : EscapeSite) :
    Nat → Nat → Units → Except String (Units × Nat)
  | 0, _, _ => .error "unexpected end of string"
  | fuel + 1, i, u =>
    if src.size ≤ i then .error "unexpected end of string"
    else
      let c := charAt src i
      if c == '\n' || c == '\r' then .error "unexpected end of string"
      else if c == quote then .ok (u, i + 1)
      else if c == '\\' then
        if src.size ≤ i + 1 then .error "unexpected end of string"
        else
          match escape src (i + 1) site with
          | .ok (v, j) => textFrom src quote site fuel j (u ++ v)
          | .error e => .error e
      else textFrom src quote site fuel (i + 1) (u.pushChar c)

/-- A part of a template as written, from a place within it: its characters in reverse, whether the
template ends, and the place after it. -/
def templateFrom (src : Source) : Nat → Nat → List Char → Except String (List Char × Bool × Nat)
  | 0, _, _ => .error "unexpected end of string"
  | fuel + 1, i, acc =>
    if src.size ≤ i then .error "unexpected end of string"
    else
      let c := charAt src i
      let next := charAt src (i + 1)
      if c == '\x60' then .ok (acc, true, i + 1)
      else if c == '$' && next == '\x7b' then .ok (acc, false, i + 2)
      else if c == '\\' then
        if src.size ≤ i + 1 then .error "unexpected end of string"
        else if next == '\r' then
          templateFrom src fuel (if charAt src (i + 2) == '\n' then i + 3 else i + 2)
            ('\n' :: '\\' :: acc)
        else templateFrom src fuel (i + 2) (next :: '\\' :: acc)
      else if c == '\r' then
        templateFrom src fuel (if next == '\n' then i + 2 else i + 1) ('\n' :: acc)
      else templateFrom src fuel (i + 1) (c :: acc)

/-- What a part of a template stands for. -/
def cookFrom (src : Source) : Nat → Nat → Units → Except String Units
  | 0, _, u => .ok u
  | fuel + 1, i, u =>
    if src.size ≤ i then .ok u
    else
      let c := charAt src i
      if c == '\\' then
        match escape src (i + 1) .template with
        | .ok (v, j) => cookFrom src fuel j (u ++ v)
        | .error e => .error e
      else cookFrom src fuel (i + 1) (u.pushChar c)

def cook (raw : List Char) : Except String Units := cookFrom raw.toArray raw.length 0 #[]

/-- The characters of a name from a place on, in reverse, whether one is escaped, and the place
after it. -/
def nameFrom (src : Source) : Nat → Nat → List Char → Bool → List Char × Bool × Nat
  | 0, i, acc, escaped => (acc, escaped, i)
  | fuel + 1, i, acc, escaped =>
    let c := charAt src i
    if src.size ≤ i then (acc, escaped, i)
    else if c == '\\' && charAt src (i + 1) == 'u' then
      match unicodeEscape src (i + 2) with
      | some (n, j) =>
        if isNamePart (Char.ofNat n) then nameFrom src fuel j (Char.ofNat n :: acc) true
        else (acc, escaped, i)
      | none => (acc, escaped, i)
    else if isNamePart c then nameFrom src fuel (i + 1) (c :: acc) escaped
    else (acc, escaped, i)

/-- Whether a name can start at a place. -/
def startsName (src : Source) (i : Nat) : Bool :=
  let c := charAt src i
  if c == '\\' then
    charAt src (i + 1) == 'u' &&
      match unicodeEscape src (i + 2) with
      | some (n, _) => isNameStart (Char.ofNat n)
      | none => false
  else isNameStart c

def nameAt (src : Source) (i : Nat) : String × Bool × Nat :=
  let (acc, escaped, j) := nameFrom src src.size i [] false
  (String.ofList acc.reverse, escaped, j)

/-- Digits of a base with single strokes between them: their value and number, and the place after
them. -/
def digitsFrom (src : Source) (base : Nat) : Nat → Nat → Nat → Nat → Nat × Nat × Nat
  | 0, i, value, count => (value, count, i)
  | fuel + 1, i, value, count =>
    let digit (j : Nat) : Option Nat :=
      match digitValue? (charAt src j) with
      | some d => if d < base then some d else none
      | none => none
    match digit i with
    | some d => digitsFrom src base fuel (i + 1) (value * base + d) (count + 1)
    | none =>
      if charAt src i == '_' && 0 < count then
        match digit (i + 1) with
        | some d => digitsFrom src base fuel (i + 2) (value * base + d) (count + 1)
        | none => (value, count, i)
      else (value, count, i)

def invalidNumber : Except String (Token × Nat) := .error "invalid number literal"

/-- A number has to end where no name goes on. -/
def endNumber (src : Source) (token : Token) (i : Nat) : Except String (Token × Nat) :=
  if isNamePart (charAt src i) && i < src.size then invalidNumber else .ok (token, i)

/-- The power of ten of a number, and the place after it. -/
def powerAt (src : Source) (i : Nat) : Int × Nat :=
  if charAt src i == 'e' || charAt src i == 'E' then
    let c := charAt src (i + 1)
    let j := if c == '+' || c == '-' then i + 2 else i + 1
    let (value, count, k) := digitsFrom src 10 src.size j 0 0
    if count = 0 then (0, i) else (if c == '-' then -(value : Int) else value, k)
  else (0, i)

def numberAt (src : Source) (i : Nat) : Except String (Token × Nat) :=
  let base? := if charAt src i == '0' then radixOfLetter? (charAt src (i + 1)) else none
  match base? with
  | some base =>
    let (value, count, j) := digitsFrom src base src.size (i + 2) 0 0
    if count = 0 then invalidNumber
    else if charAt src j == 'n' then endNumber src (.big value) (j + 1)
    else endNumber src (.number (natFloat value)) j
  | none =>
    let (whole, count, j) := digitsFrom src 10 src.size i 0 0
    if charAt src j == 'n' && 0 < count then endNumber src (.big whole) (j + 1)
    else
      let (digits, places, j) :=
        if charAt src j == '.' then
          let (d, n, k) := digitsFrom src 10 src.size (j + 1) 0 0
          (whole * Nat.pow 10 n + d, n, k)
        else (whole, 0, j)
      let (power, j) := powerAt src j
      endNumber src (.number (decimalFloat digits (power - places))) j

/-- Marks, longer ones before their beginnings. -/
def marks : List String :=
  [">>>=", "...", "===", "!==", "**=", "<<=", ">>=", ">>>", "&&=", "||=", "??=",
   "=>", "==", "!=", "<=", ">=", "&&", "||", "??", "?.", "++", "--", "+=", "-=", "*=", "/=", "%=",
   "&=", "|=", "^=", "<<", ">>", "**"]

def marksAt (src : Source) (i : Nat) (m : String) : Bool :=
  slice src i (i + m.length) == m.toList

def markAt (src : Source) (i : Nat) : Token × Nat :=
  match marks.find? (marksAt src i) with
  | some "?." =>
    if (charAt src (i + 2)).isDigit then (.mark "?", i + 1) else (.mark "?.", i + 2)
  | some m => (.mark m, i + m.length)
  | none => (.mark (String.singleton (charAt src i)), i + 1)

/-- A number that begins with a zero and a digit: it is octal unless it has a digit too many. -/
def oldNumberAt (src : Source) (i : Nat) : Except String (Token × Nat) :=
  let (_, _, j) := digitsFrom src 8 src.size (i + 1) 0 0
  if (charAt src j).isDigit then numberAt src i
  else
    let (value, _, j) := digitsFrom src 8 src.size i 0 0
    endNumber src (.number (natFloat value)) j

/-- The word at a place that is neither space nor comment. -/
def wordAt (src : Source) (mode : Mode) (i : Nat) : Except String (Token × Nat) :=
  if src.size ≤ i then .ok (.eof, i)
  else
    let c := charAt src i
    if startsName src i then
      let (s, escaped, j) := nameAt src i
      let reserved := mode.reserves s
      .ok (if reserved then (if escaped then .name s true else .keyword s) else .name s false, j)
    else if c == '"' || c == '\'' then
      match textFrom src c (if mode.strict then .strict else .loose) (src.size + 1) (i + 1) #[] with
      | .ok (u, j) => .ok (.text u, j)
      | .error e => .error e
    else if c == '\x60' then
      match templateFrom src (src.size + 1) (i + 1) [] with
      | .ok (raw, last, j) => .ok (.template raw.reverse last, j)
      | .error e => .error e
    else if c.isDigit then
      if c == '0' && charAt src (i + 1) == '_' then
        .error "Numeric separator can not be used after leading 0"
      else if c == '0' && (charAt src (i + 1)).isDigit then
        if mode.strict then .error "Octal literals are not allowed in strict mode"
        else oldNumberAt src i
      else numberAt src i
    else if c == '.' && (charAt src (i + 1)).isDigit then numberAt src i
    else if c == '#' then
      if startsName src (i + 1) then
        let (s, _, j) := nameAt src (i + 1)
        .ok (.hidden s, j)
      else .error "invalid first character of private name"
    else if 128 ≤ c.toNat then .error "unexpected character"
    else .ok (markAt src i)

/-- The next word from a place on. Words are read on demand, since only the grammar knows whether a
stroke begins a regular expression. -/
def lexemeAt (src : Source) (mode : Mode) (i : Nat) : Except String Lexeme :=
  match skipSpace src (src.size + 1) i (i = 0) with
  | .error e => .error e
  | .ok (start, afterLine) =>
    match wordAt src mode start with
    | .error e => .error e
    | .ok (token, stop) => .ok { token, start, stop, afterLine := afterLine && 0 < i }

/-- The part of a template that goes on after a closing brace. -/
def templateAt (src : Source) (i : Nat) : Except String Lexeme :=
  match templateFrom src (src.size + 1) i [] with
  | .ok (raw, last, j) => .ok { token := .template raw.reverse last, start := i, stop := j }
  | .error e => .error e

/-- The body of a regular expression from after its first stroke on, in reverse, and the place after
its last one. -/
def patternFrom (src : Source) : Nat → Nat → Bool → List Char → Except String (List Char × Nat)
  | 0, _, _, _ => .error "unexpected end of regexp"
  | fuel + 1, i, inClass, acc =>
    if src.size ≤ i then .error "unexpected end of regexp"
    else
      let c := charAt src i
      if isLineEnd c then .error "unexpected line terminator in regexp"
      else if c == '/' && ! inClass then .ok (acc, i + 1)
      else if c == '\\' then
        if src.size ≤ i + 1 then .error "unexpected end of regexp"
        else if isLineEnd (charAt src (i + 1)) then .error "unexpected line terminator in regexp"
        else patternFrom src fuel (i + 2) inClass (charAt src (i + 1) :: c :: acc)
      else
        let inClass := if c == '[' then true else if c == ']' then false else inClass
        patternFrom src fuel (i + 1) inClass (c :: acc)

/-- A regular expression whose first stroke stands at a place: its body, its flags, and the place
after it. -/
def patternAt (src : Source) (i : Nat) : Except String (Units × Units × Nat) :=
  match patternFrom src (src.size + 1) (i + 1) false [] with
  | .error e => .error e
  | .ok (body, j) =>
    let (flags, _, k) := nameAt src j
    .ok (.ofChars body.reverse, .ofString flags, k)

end Lexer

end CollectionRunner.Script
