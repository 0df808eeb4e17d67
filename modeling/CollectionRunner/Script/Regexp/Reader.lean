import CollectionRunner.Script.Regexp.Tree
import CollectionRunner.Unicode.Script

namespace CollectionRunner.Script.Regexp

open Unicode

structure ReadState where
  rest : List Nat
  /-- The number of groups so far, the whole match not counted. -/
  groups : Nat := 0
  names : List (Units × Nat) := []
  flags : Flags := {}
  /-- The whole expression, which is searched for groups that follow. -/
  source : List Nat := []

abbrev Reader := EStateM String ReadState

namespace Reader

def fail {α : Type} (message : String) : Reader α := throw message

def peek : Reader (Option Nat) := return (← get).rest.head?

def advance (n : Nat) : Reader Unit := modify fun s => { s with rest := s.rest.drop n }

def rest : Reader (List Nat) := return (← get).rest

def isUnicode : Reader Bool := return (← get).flags.unicode

def isNext (c : Char) : Reader Bool := return (← peek) == some c.toNat

/-- Goes past a character if it is the next one. -/
def taken (c : Char) : Reader Bool := do
  if ← isNext c then
    advance 1
    return true
  return false

def startsWith (marks : String) : Reader Bool := do
  let s ← get
  return (marks.toList.map (·.toNat)).isPrefixOf s.rest

end Reader

open Reader

def hexOf? (n : Nat) : Option Nat :=
  if 48 ≤ n && n ≤ 57 then some (n - 48)
  else if 65 ≤ n && n ≤ 70 then some (n - 55)
  else if 97 ≤ n && n ≤ 102 then some (n - 87)
  else none

/-- The number that some hexadecimal digits are. -/
def hexDigits? (ds : List Nat) (count : Nat) : Option Nat :=
  if ds.length < count then none
  else (ds.take count).foldl (fun acc d =>
    match acc, hexOf? d with
    | some a, some h => some (16 * a + h)
    | _, _ => none) (some 0)

def isDigitCode (n : Nat) : Bool := 48 ≤ n && n ≤ 57

def isOctalCode (n : Nat) : Bool := 48 ≤ n && n ≤ 55

/-- The decimal number at the start, and how many digits it has. -/
def decimal (ds : List Nat) : Nat × Nat :=
  let digits := ds.takeWhile isDigitCode
  (digits.foldl (fun a d => 10 * a + (d - 48)) 0, digits.length)

def badEscape {α : Type} : Reader α := fail "invalid escape sequence in regular expression"

/-- What an escape stands for, from after its backslash on. -/
inductive Escape where
  /-- A character, and how many of those after the backslash it takes. -/
  | code (n taken : Nat)
  | malformed
  | unknown
  deriving DecidableEq, Repr

/-- A character by its number, from after `u` on; the two halves of a pair may be written apart. -/
def unicodeEscape (braces : Bool) (ds : List Nat) : Escape :=
  match ds with
  | 123 :: more =>
    if braces then
      let digits := more.takeWhile fun d => (hexOf? d).isSome
      let n := digits.foldl (fun a d => 16 * a + (hexOf? d).getD 0) 0
      if digits.isEmpty || 0x10FFFF < n || more.getD digits.length 0 != 125 then .malformed
      else .code n (digits.length + 3)
    else .malformed
  | ds =>
    match hexDigits? ds 4 with
    | none => .malformed
    | some a =>
      match ds.drop 4 with
      | 92 :: 117 :: more =>
        match hexDigits? more 4 with
        | some b =>
          if braces && 0xD800 ≤ a && a < 0xDC00 && 0xDC00 ≤ b && b < 0xE000 then
            .code (Units.pair a.toUInt16 b.toUInt16) 11
          else .code a 5
        | none => .code a 5
      | _ => .code a 5

/-- The character of up to three octal digits, no greater than 255. -/
def octalEscape (ds : List Nat) : Escape :=
  let digits := ds.takeWhile isOctalCode
  let two := (digits.take 2).foldl (fun a d => 8 * a + (d - 48)) 0
  match digits with
  | _ :: _ :: d :: _ => if two < 32 then .code (8 * two + (d - 48)) 3 else .code two 2
  | ds => .code two ds.length

/-- What letters and digits stand for after a backslash, wherever it stands. -/
def commonEscape (unicode : Bool) (ds : List Nat) : Escape :=
  match ds with
  | 98 :: _ => .code 8 1
  | 102 :: _ => .code 12 1
  | 110 :: _ => .code 10 1
  | 114 :: _ => .code 13 1
  | 116 :: _ => .code 9 1
  | 118 :: _ => .code 11 1
  | 120 :: more =>
    match hexDigits? more 2 with
    | some n => .code n 3
    | none => .malformed
  | 117 :: more => unicodeEscape unicode more
  | d :: more =>
    if isOctalCode d then
      if unicode then
        if d ≠ 48 || (more.head?.map isDigitCode).getD false then .malformed else .code 0 1
      else octalEscape ds
    else .unknown
  | [] => .unknown

/-- A single character, or a set of them. -/
inductive Atom where
  | code (n : Nat)
  | set (codes : CodeSet)

/-- Classes of characters that have letters of their own; a capital stands for all others. -/
def shorthand? (letter : Nat) : Option CodeSet :=
  let space : CodeSet :=
    .unionAll [.range 9 13, .single 32, .single 160, .single 0x1680, .range 0x2000 0x200A,
      .range 0x2028 0x2029, .single 0x202F, .single 0x205F, .single 0x3000, .single 0xFEFF]
  let word : CodeSet := .unionAll [.range 48 57, .range 65 90, .single 95, .range 97 122]
  match Char.ofNat letter with
  | 'd' => some (.range 48 57)
  | 'D' => some (CodeSet.range 48 57).compl
  | 's' => some space
  | 'S' => some space.compl
  | 'w' => some word
  | 'W' => some word.compl
  | _ => none

/-- The set of a property that stands alone. -/
def propertyNamed? (name : String) : Option CodeSet :=
  let category (name : String) : Option CodeSet :=
    match name with
    | "Cn" | "Unassigned" => some (Category.unassigned.codes.union newest)
    | "C" | "Other" => (Category.codesNamed? name).map (·.union newest)
    | name => (Category.codesNamed? name).map Alphabet.known
  match category name with
  | some codes => some codes
  | none =>
    match name with
    | "Any" => some .all
    | "ASCII" => some (.range 0 127)
    | "Assigned" => some (Category.unassigned.codes.union newest).compl
    | name => (Property.codesNamed? name).map Alphabet.known

/-- A property of characters, from after `\p` on. -/
def readProperty (negated : Bool) : Reader CodeSet := do
  let isNameCode (n : Nat) : Bool := isWordCode n
  let toText (codes : List Nat) : String := String.ofList (codes.map Char.ofNat)
  if ! (← taken '\x7b') then fail "expecting '\x7b' after \\p"
  let unknown {α : Type} : Reader α := fail "unknown unicode property name"
  let name := (← rest).takeWhile isNameCode
  if 63 < name.length then unknown
  advance name.length
  let value ← if ← taken '=' then do
      let value := (← rest).takeWhile isNameCode
      if 63 < value.length then fail "unknown unicode property value"
      advance value.length
      pure (toText value)
    else pure ""
  if ! (← taken '\x7d') then fail "expecting '\x7d'"
  let found ← show Reader CodeSet from do
    let script (uses : Bool) : Reader CodeSet :=
      match Script.named? value with
      | some s => return Alphabet.known (if uses then s.uses else s.codes)
      | none => fail "unknown unicode script"
    match toText name with
    | "Script" | "sc" => script false
    | "Script_Extensions" | "scx" => script true
    | "General_Category" | "gc" =>
      match value, Category.codesNamed? value with
      | "Cn", _ | "Unassigned", _ | "C", _ | "Other", _ => return (propertyNamed? value).getD .empty
      | _, some codes => return Alphabet.known codes
      | _, none => fail "unknown unicode general category"
    | name =>
      match if value = "" then propertyNamed? name else none with
      | some codes => return codes
      | none => unknown
  return if negated then found.compl else found

/-- Marks that a backslash takes their meaning. -/
def isSyntaxMark (n : Nat) : Bool := "^$\\.*+?()[]\x7b\x7d|/".toList.contains (Char.ofNat n)

/-- What a backslash and what follows it stand for, from after the backslash on. -/
def readEscape (inClass : Bool) : Reader Atom := do
  let u ← isUnicode
  match ← rest with
  | [] => fail "unexpected end"
  | n :: more =>
    match shorthand? n with
    | some codes =>
      advance 1
      return .set codes
    | none =>
      if n = 99 then
        match more with
        | c :: _ =>
          if (65 ≤ c && c ≤ 90) || (97 ≤ c && c ≤ 122) ||
              (inClass && ! u && (isDigitCode c || c = 95)) then
            advance 2
            return .code (c % 32)
          else if u then badEscape
          else return .code 92
        | [] => if u then badEscape else return .code 92
      else if n = 45 then
        if u && ! inClass then badEscape
        advance 1
        return .code 45
      else if u && (n = 112 || n = 80) then
        advance 1
        return .set (← readProperty (n = 80))
      else
        match commonEscape u (n :: more) with
        | .code c count =>
          advance count
          return .code c
        | .unknown =>
          if u && ! isSyntaxMark n then badEscape
          advance 1
          return .code n
        | .malformed =>
          if u then badEscape
          advance 1
          return .code n

def readAtom (inClass : Bool) : Reader Atom := do
  match ← peek with
  | none => fail "unexpected end"
  | some 92 =>
    advance 1
    readEscape inClass
  | some n =>
    advance 1
    return .code n

/-- A name in angle brackets, from after the opening one on, and what follows the closing one. -/
def groupName? : (fuel : Nat) → (done : List Nat) → List Nat → Option (List Nat × List Nat)
  | 0, _, _ => none
  | fuel + 1, done, codes =>
    let size := (done.map fun n =>
      if n < 0x80 then 1 else if n < 0x800 then 2 else if n < 0x10000 then 3 else 4).sum
    let add (n : Nat) (rest : List Nat) : Option (List Nat × List Nat) :=
      let fits := if done.isEmpty then Alphabet.isNameStart n else Alphabet.isNamePart n
      if fits && size + 5 ≤ 128 then groupName? fuel (n :: done) rest else none
    match codes with
    | [] => none
    | 62 :: rest => if done.isEmpty then none else some (done.reverse, rest)
    | 92 :: 117 :: rest =>
      match unicodeEscape true rest with
      | .code n count => add n (rest.drop (count - 1))
      | _ => none
    | 92 :: _ => none
    | a :: b :: rest =>
      if 0xD800 ≤ a && a < 0xDC00 && 0xDC00 ≤ b && b < 0xE000 then
        add (Units.pair a.toUInt16 b.toUInt16) rest
      else add a (b :: rest)
    | a :: rest => add a rest

def nameAt? (codes : List Nat) : Option (Units × List Nat) :=
  (groupName? (codes.length + 1) [] codes).map fun (name, rest) => (Units.ofCodes name, rest)

/-- The groups of an expression in their order, found by a look at its whole text: each with its
name, if it has one. -/
def groupsAhead : (fuel : Nat) → (inClass : Bool) → List Nat → List (Option Units)
  | 0, _, _ => []
  | fuel + 1, inClass, codes =>
    match codes, inClass with
    | [], _ => []
    | 92 :: _ :: rest, _ => groupsAhead fuel inClass rest
    | 91 :: rest, false => groupsAhead fuel true rest
    | 93 :: rest, true => groupsAhead fuel false rest
    | 40 :: 63 :: 60 :: c :: rest, false =>
      if c = 61 || c = 33 then groupsAhead fuel false rest
      else
        match nameAt? (c :: rest) with
        | some (name, rest) => some name :: groupsAhead fuel false rest
        | none => some #[] :: groupsAhead fuel false (c :: rest)
    | 40 :: 63 :: rest, false => groupsAhead fuel false rest
    | 40 :: rest, false => none :: groupsAhead fuel false rest
    | _ :: rest, _ => groupsAhead fuel inClass rest

def allGroups : Reader (List (Option Units)) := do
  let source := (← get).source
  return groupsAhead (source.length + 1) false source

def hasNamedGroups : Reader Bool := return (← allGroups).any (·.isSome)

def Atom.codes : Atom → CodeSet
  | .code n => .single n
  | .set codes => codes

def badRange {α : Type} : Reader α := fail "invalid class range"

def readClassItems : Nat → List CodeSet → Reader CodeSet
  | 0, _ => fail "unexpected end"
  | n + 1, items => do
    if ← taken ']' then return .unionAll items.reverse
    let a ← readAtom true
    let u ← isUnicode
    let isRange ← show Reader Bool from do
      match ← rest with
      | 45 :: 93 :: _ => return false
      | 45 :: _ => return true
      | _ => return false
    if ! isRange then readClassItems n (a.codes :: items)
    else
      match a with
      | .set codes =>
        if u then badRange
        readClassItems n (codes :: items)
      | .code first =>
        let before ← get
        advance 1
        match ← readAtom true with
        | .set _ =>
          if u then badRange
          set before
          readClassItems n (.single first :: items)
        | .code last =>
          if last < first then badRange
          readClassItems n (.range first last :: items)

/-- Marks that must not be all of a class where classes may hold others. -/
def reservedClasses : List String :=
  ["(", ")", "[", "]", "\x7b", "\x7d", "/", "-", "|", "&&", "!!", "##", "$$", "%%", "**", "++", ",,",
   "..", "::", ";;", "<<", "==", ">>", "??", "@@", "``", "~~", "^^^", "_^^"]

def readClass : Reader Tree := do
  let s ← get
  if s.flags.sets then
    for marks in reservedClasses do
      if ← startsWith (marks ++ "]") then badRange
  let negated ← taken '^'
  let codes ← readClassItems (s.rest.length + 2) []
  let forms := formsOf s.flags codes
  return .set (if negated then forms.compl else forms)

/-- The greatest number of repetitions that is told from any number of them. -/
def countLimit : Nat := 2147483647

/-- The bounds of a repetition, if its mark is next. -/
def readBounds : Reader (Option (Nat × Option Nat)) := do
  let u ← isUnicode
  match ← rest with
  | 42 :: _ =>
    advance 1
    return some (0, none)
  | 43 :: _ =>
    advance 1
    return some (1, none)
  | 63 :: _ =>
    advance 1
    return some (0, some 1)
  | 123 :: ds =>
    let (least, count) := decimal ds
    let least := min least countLimit
    if count = 0 then
      if u then fail "invalid repetition count"
      return none
    let close (most : Option Nat) (count : Nat) : Reader (Option (Nat × Option Nat)) := do
      if (ds.drop count).head? == some 125 then
        advance (count + 2)
        return some (least, most)
      if u then fail "expecting '\x7d'"
      return none
    match ds.drop count with
    | 44 :: more =>
      let (most, count') := decimal more
      if count' = 0 then close none (count + 1)
      else
        let most := min most countLimit
        if most < least then fail "invalid repetition count"
        close (if most = countLimit then none else some most) (count + 1 + count')
    | _ => close (if least = countLimit then none else some least) count
  | _ => return none

/-- Whether a brace and what follows it would bound a repetition. -/
def looksLikeBounds (ds : List Nat) : Bool :=
  let rest := ds.dropWhile isDigitCode
  if rest.length = ds.length then false
  else
    match rest with
    | 44 :: more => (more.dropWhile isDigitCode).head? == some 125
    | rest => rest.head? == some 125

def newGroup (name : Option Units) : Reader Nat := do
  let s ← get
  match name with
  | some u => if s.names.any (·.1 == u) then fail "duplicate group name"
  | none => pure ()
  if 254 ≤ s.groups then fail "too many captures"
  let index := s.groups + 1
  set { s with groups := index, names := s.names ++ (name.map fun u => (u, index)).toList }
  return index

/-- A single character or a set of them, which stands alone. -/
def atomTree : Atom → Reader Tree
  | .code n => return .char ((← get).flags.form n)
  | .set codes => return .set codes

def readPlain : Reader (Tree × Bool) := return (← atomTree (← readAtom false), true)

/-- A reference to a group by its name, from the backslash on. -/
def readNamedReference : Reader (Tree × Bool) := do
  let orPlain (message : String) : Reader (Tree × Bool) := do
    if (← isUnicode) || (← hasNamedGroups) then fail message
    readPlain
  match (← rest).drop 2 with
  | 60 :: more =>
    match nameAt? more with
    | none => orPlain "invalid group name"
    | some (name, after) =>
      let known := ((← get).names.find? (·.1 == name)).map (·.2)
      let ahead := ((← allGroups).findIdx? (· == some name)).map (· + 1)
      match known, ahead with
      | some index, _ | none, some index =>
        modify fun s => { s with rest := after }
        return (.backReference index, true)
      | none, none => orPlain "group name not defined"
  | _ => orPlain "expecting group name"

/-- A backslash, a digit and what follows: a reference to a group, or a character by its number. -/
def readNumbered (first : Nat) : Reader (Tree × Bool) := do
  let u ← isUnicode
  let char (n count : Nat) : Reader (Tree × Bool) := do
    advance count
    return (← atomTree (.code n), true)
  let ds := (← rest).drop 1
  if first = 48 then
    if u then
      if ((ds.drop 1).head?.map isDigitCode).getD false then
        fail "invalid decimal escape in regular expression"
      char 0 2
    else
      let octal := ((ds.drop 1).takeWhile isOctalCode).take 2
      char (octal.foldl (fun a d => 8 * a + (d - 48)) 0) (2 + octal.length)
  else
    let (index, count) := decimal ds
    let s ← get
    if index ≤ s.groups || index < 255 && index ≤ (← allGroups).length then
      advance (1 + count)
      return (.backReference index, true)
    if u then fail "back reference out of range in regular expression"
    if first ≤ 55 then
      let digits := (ds.takeWhile isOctalCode).take (if first ≤ 51 then 3 else 2)
      char (digits.foldl (fun a d => 8 * a + (d - 48)) 0) (1 + digits.length)
    else char first 2

/-- A part of a sequence without its repetition, and whether it can be repeated. -/
def readTerm (choice : Reader Tree) : Reader (Tree × Bool) := do
  let closed (t : Tree) : Reader Tree := do
    if ! (← taken ')') then fail "expecting ')'"
    return t
  let capture (name : Option Units) : Reader (Tree × Bool) := do
    let index ← newGroup name
    return (.capture index (← closed (← choice)), true)
  let u ← isUnicode
  let here ← rest
  match here.head?.map Char.ofNat with
  | none => return (.empty, false)
  | some '^' =>
    advance 1
    return (.atStart, false)
  | some '$' =>
    advance 1
    return (.atEnd, false)
  | some '(' =>
    advance 1
    let around (size : Nat) (behind negated : Bool) : Reader (Tree × Bool) := do
      advance size
      return (.look behind negated (← closed (← choice)), ! u && ! behind)
    if ← startsWith "?:" then
      advance 2
      return (.group (← closed (← choice)), true)
    else if ← startsWith "?=" then around 2 false false
    else if ← startsWith "?!" then around 2 false true
    else if ← startsWith "?<=" then around 3 true false
    else if ← startsWith "?<!" then around 3 true true
    else if ← startsWith "?<" then
      match nameAt? (here.drop 3) with
      | none => fail "invalid group name"
      | some (name, after) =>
        modify fun s => { s with rest := after }
        capture (some name)
    else if ← startsWith "?" then fail "invalid group"
    else capture none
  | some '.' =>
    advance 1
    return (.any (← get).flags.dotAll, true)
  | some '[' =>
    advance 1
    return (← readClass, true)
  | some '*' | some '+' | some '?' => fail "nothing to repeat"
  | some '\x7b' =>
    if u then fail "syntax error"
    if looksLikeBounds (here.drop 1) then fail "nothing to repeat"
    readPlain
  | some '\x7d' | some ']' =>
    if u then fail "syntax error"
    readPlain
  | some '\\' =>
    match (here.drop 1).head? with
    | some 98 =>
      advance 2
      return (.boundary false, false)
    | some 66 =>
      advance 2
      return (.boundary true, false)
    | some 107 => readNamedReference
    | some d => if isDigitCode d then readNumbered d else readPlain
    | none => readPlain
  | _ => readPlain

/-- Parts one after another, up to a stroke or a closing parenthesis. -/
def readSequence (choice : Reader Tree) : Nat → Tree → Reader Tree
  | 0, t => return t
  | n + 1, before => do
    match ← peek with
    | none | some 124 | some 41 => return before
    | _ =>
      let first := (← get).groups + 1
      let (t, repeats) ← readTerm choice
      let last := (← get).groups + 1
      let t ← show Reader Tree from do
        match ← if repeats then readBounds else pure none with
        | none => return t
        | some (least, most) =>
          let greedy := ! (← taken '?')
          return .repeat true least most greedy first last t
      readSequence choice n (match before with
        | .empty => t
        | _ => .sequence before t)

/-- Sequences with strokes between them; parts may stand in one another `depth` times at most. -/
def readChoice : Nat → Reader Tree
  | 0 => fail "stack overflow"
  | depth + 1 => do
    let a ← readSequence (readChoice depth) ((← rest).length + 1) .empty
    if ← taken '|' then return .choice a (← readChoice depth)
    return a

/-- The flags that some letters are; each may stand once, and characters are read by code points in
one way only. -/
def Flags.ofUnits? (u : Units) : Option Flags :=
  let add (f : Flags) (x : UInt16) : Option Flags :=
    match Char.ofNat x.toNat with
    | 'd' => if f.indices then none else some { f with indices := true }
    | 'g' => if f.global then none else some { f with global := true }
    | 'i' => if f.ignoreCase then none else some { f with ignoreCase := true }
    | 'm' => if f.multiline then none else some { f with multiline := true }
    | 's' => if f.dotAll then none else some { f with dotAll := true }
    | 'u' => if f.unicode then none else some { f with unicode := true }
    | 'v' => if f.sets then none else some { f with sets := true }
    | 'y' => if f.sticky then none else some { f with sticky := true }
    | _ => none
  (u.foldl (fun acc x => acc.bind (add · x)) (some {})).filter fun f => ! (f.unicode && f.sets)

/-- The regular expression that a text is, or the complaint about it. -/
def Expression.ofUnits (source flags : Units) : Except String Expression :=
  match Flags.ofUnits? flags with
  | none => .error "invalid regular expression flags"
  | some f =>
    let codes := if f.unicode then source.codes else (source.map UInt16.toNat).toList
    match readChoice (codes.length + 2) { rest := codes, flags := f, source := codes } with
    | .error e _ => .error e
    | .ok tree s =>
      match s.rest with
      | [] => .ok ⟨tree, s.groups, s.names, f⟩
      | _ => .error "extraneous characters at the end"

end CollectionRunner.Script.Regexp
