import CollectionRunner.Text.Blank
import CollectionRunner.Text.Letter

namespace CollectionRunner.Dotenv

/-- Text that is not an assignment, and where it stops being one. -/
structure LineError where
  line : String
  index : Nat
  deriving DecidableEq, Repr

def LineError.message (e : LineError) : String :=
  "Error parsing line: '" ++ e.line ++ "', error at line index: " ++ toString e.index

/-- Values assigned before, the latest first. -/
abbrev Assigned := List (String × String)

/-- The value that a name stands for, nothing when it was not assigned. -/
def substitute (assigned : Assigned) (name : List Char) : List Char :=
  ((assigned.lookup (String.ofList name.reverse)).getD "").toList

/-- Where a value has got to. Names of keys being read are in reverse. -/
inductive Mode where
  | bare
  | strong
  | weak
  | ended
  | escaped (inside : Bool)
  | named (inside : Bool) (name : List Char)
  | braced (inside : Bool) (name : List Char)
  deriving DecidableEq, Repr

def Mode.quotedBy (inside : Bool) : Mode := if inside then .weak else .bare

/-- One character of a value; `none` when it has no place there. The output is in reverse. -/
def Mode.next (assigned : Assigned) (mode : Mode) (out : List Char) (c : Char) :
    Option (Mode × List Char) :=
  match mode with
  | .ended => if c == ' ' || c == '\t' then some (.ended, out) else none
  | .escaped inside =>
    if c == 'n' then some (.quotedBy inside, '\n' :: out)
    else if c == '\\' || c == '\'' || c == '"' || c == '$' || c == ' ' then
      some (.quotedBy inside, c :: out)
    else none
  | .strong => some (if c == '\'' then (.bare, out) else (.strong, c :: out))
  | .named inside name =>
    if Text.isAlphanumeric c then some (.named inside (c :: name), out)
    else if c == '\x7b' && name.isEmpty then some (.braced inside [], out)
    else
      let out := (substitute assigned name).reverse ++ out
      some (if c == '$' then (.named inside [], out) else (.quotedBy inside, c :: out))
  | .braced inside name =>
    if c == '\x7d' then some (.quotedBy inside, (substitute assigned name).reverse ++ out)
    else some (.braced inside (c :: name), out)
  | .weak =>
    some (if c == '$' then (.named true [], out)
      else if c == '"' then (.bare, out)
      else if c == '\\' then (.escaped true, out)
      else (.weak, c :: out))
  | .bare =>
    some (if c == '$' then (.named false [], out)
      else if c == '\'' then (.strong, out)
      else if c == '"' then (.weak, out)
      else if c == '\\' then (.escaped false, out)
      else if c == ' ' || c == '\t' then (.ended, out)
      else (.bare, c :: out))

/-- The characters of a value from one of them on; the second number counts them. -/
def valueFrom (assigned : Assigned) (mode : Mode) (out : List Char) (index : Nat) :
    List Char → Except Nat (Mode × List Char)
  | [] => .ok (mode, out)
  | c :: rest =>
    if mode = .ended && c == '#' then .ok (mode, out)
    else match mode.next assigned out c with
      | some (mode, out) => valueFrom assigned mode out (index + 1) rest
      | none => .error index

/-- The value that a text stands for. -/
def value (assigned : Assigned) (text : String) : Except LineError String :=
  let unended : Except LineError String := .error ⟨text, text.utf8ByteSize - 1⟩
  match valueFrom assigned .bare [] 0 text.toList with
  | .error index => .error ⟨text, index⟩
  | .ok (.strong, _) | .ok (.weak, _) | .ok (.escaped true, _) | .ok (.braced _ _, _) => unended
  | .ok (.named true _, _) => unended
  | .ok (.named false name, out) =>
    .ok (String.ofList (out.reverse ++ substitute assigned name))
  | .ok (_, out) => .ok (String.ofList out.reverse)

/-- What is left of a line, and the bytes before it. -/
structure Rest where
  chars : List Char
  pos : Nat

def Rest.skipBlanks (r : Rest) : Rest :=
  let blanks := r.chars.takeWhile Text.isBlank
  ⟨r.chars.dropWhile Text.isBlank, r.pos + (String.ofList blanks).utf8ByteSize⟩

def isKeyStart (c : Char) : Bool := c.isAlpha || c == '_'

def isKeyChar (c : Char) : Bool := c.isAlphanum || c == '_' || c == '.'

def Rest.key? (r : Rest) : Option (String × Rest) :=
  if (r.chars.head?.map isKeyStart).getD false then
    let key := r.chars.takeWhile isKeyChar
    some (String.ofList key, ⟨r.chars.dropWhile isKeyChar, r.pos + key.length⟩)
  else none

def Rest.equals? (r : Rest) : Option Rest :=
  match r.chars with
  | '=' :: rest => some ⟨rest, r.pos + 1⟩
  | _ => none

/-- Whether nothing but a comment is left. -/
def Rest.isIdle (r : Rest) : Bool :=
  match r.chars with
  | [] | '#' :: _ => true
  | _ => false

/-- The key of a line and what stands behind its equals sign; `export` may precede the key. -/
def assignment (line : String) (r : Rest) : Except LineError (String × Rest) := do
  let some (key, r) := r.key? | throw ⟨line, r.pos⟩
  let r := r.skipBlanks
  match r.equals? with
  | some r => return (key, r.skipBlanks)
  | none =>
    if key ≠ "export" then throw ⟨line, r.pos⟩
    let some (key, r) := r.key? | throw ⟨line, r.pos⟩
    let r := r.skipBlanks
    let some r := r.equals? | throw ⟨line, r.pos⟩
    return (key, r.skipBlanks)

/-- The assignment on a line, if there is one. -/
def parseLine (assigned : Assigned) (line : String) :
    Except LineError (Option (String × String)) := do
  let trimmed := (line.toList.reverse.dropWhile Text.isBlank).reverse
  let r := (Rest.mk trimmed 0).skipBlanks
  if r.isIdle then return none
  let (key, r) ← assignment line r
  if r.isIdle then return some (key, "")
  return some (key, ← value assigned (String.ofList r.chars))

end CollectionRunner.Dotenv
