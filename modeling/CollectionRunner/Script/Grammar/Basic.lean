import CollectionRunner.Script.Lexer

namespace CollectionRunner.Script.Grammar

/-- A block that is being read. -/
structure OpenBlock where
  declared : List Declared := []
  functions : List Function := []
  /-- Names that are declared for the whole function here or further inside. -/
  passing : List String := []
  /-- The name that the handler of an exception binds around this block. -/
  caught : Option String := none
  /-- It holds nothing but the name that the handler of an exception binds. -/
  isHandler : Bool := false
  isBody : Bool := false
  deriving Inhabited

/-- A statement that can be left from within. -/
structure Exit where
  label : Option String
  /-- A loop, which can also be continued. -/
  isLoop : Bool
  /-- It can be left without its label. -/
  isPlain : Bool

/-- A function, or the script itself, that is being read. -/
structure OpenFunction where
  isProgram : Bool := false
  role : FunctionRole := .plain
  isStrict : Bool := true
  /-- Its statements say that they are strict. -/
  saysStrict : Bool := false
  /-- A static block of a class. -/
  isStaticBlock : Bool := false
  /-- It is an arrow within a function where `await` or `yield` is reserved. -/
  awaitsAround : Bool := false
  yieldsAround : Bool := false
  isAsync : Bool := false
  isGenerator : Bool := false
  inBody : Bool := true
  newTargetAllowed : Bool := false
  superCallAllowed : Bool := false
  superAllowed : Bool := false
  argumentsAllowed : Bool := true
  parameters : List String := []
  vars : List String := []
  blocks : List OpenBlock := []
  exits : List Exit := []
  deriving Inhabited

structure State where
  source : Lexer.Source
  lexeme : Lexeme := {}
  /-- Where the last word stopped. -/
  lastStop : Nat := 0
  here : OpenFunction := {}
  outer : List OpenFunction := []
  /-- Hidden names in use that no class has declared yet. -/
  hiddenUses : List String := []
  /-- The name of the text. -/
  file : String := ""
  /-- A text that is evaluated, whose statements have values. -/
  isText : Bool := false
  /-- The line at hand, and where the one before it ends. -/
  line : Nat := 1
  lineStop : Nat := 0
  /-- The place that messages tell: the last name or reserved word of the line, or its start. -/
  mark : Nat := 0
  /-- The number of the next template that is handed to a function. -/
  site : Nat := 0
  deriving Inhabited

abbrev Reader := EStateM String State

def fail {α : Type} (message : String) : Reader α := throw message

def lexeme : Reader Lexeme := return (← get).lexeme

def token : Reader Token := return (← get).lexeme.token

def here : Reader OpenFunction := return (← get).here

def modifyHere (f : OpenFunction → OpenFunction) : Reader Unit :=
  modify fun s => { s with here := f s.here }

def ofExcept {α : Type} : Except String α → Reader α
  | .ok a => pure a
  | .error e => throw e

/-- How words are read here. -/
def OpenFunction.mode (f : OpenFunction) : Lexer.Mode :=
  { strict := f.isStrict
    awaits := f.isAsync || f.isStaticBlock || (! f.inBody && f.awaitsAround)
    yields := f.isGenerator || (! f.inBody && f.yieldsAround) }

/-- The number of lines that end between two places, and where the last one does. -/
def linesBetween (src : Lexer.Source) : Nat → Nat → Nat × Option Nat → Nat × Option Nat
  | 0, _, found => found
  | count + 1, i, (n, last) =>
    let c := Lexer.charAt src i
    let ends := Lexer.isLineEnd c && ! (c == '\r' && Lexer.charAt src (i + 1) == '\n')
    linesBetween src count (i + 1) (if ends then (n + 1, some i) else (n, last))

/-- Makes a word the one at hand, which comes after another one. -/
def State.advance (s : State) (l : Lexeme) : State :=
  let (lines, last) := linesBetween s.source (l.start - s.lexeme.start) s.lexeme.start (0, none)
  let isName :=
    match l.token with
    | .name .. | .keyword _ => true
    | _ => false
  { s with
    lexeme := l
    lastStop := s.lexeme.stop
    line := s.line + lines
    lineStop := last.getD s.lineStop
    mark := if isName then l.start else (last.map (· + 1)).getD s.mark }

/-- The place that messages tell, in bytes from the start of its line. -/
def State.position (s : State) : Position :=
  let before := Lexer.slice s.source s.lineStop s.mark
  ⟨s.line, max 1 ((before.map Char.utf8Size).foldl (· + ·) 0)⟩

def position : Reader Position := return (← get).position

/-- Goes on to the next word. -/
def next : Reader Unit := do
  let s ← get
  let l ← ofExcept (Lexer.lexemeAt s.source s.here.mode s.lexeme.stop)
  set (s.advance l)

/-- The word after the one at hand; a word that cannot be read counts as the end. -/
def peek : Reader Lexeme := do
  let s ← get
  match Lexer.lexemeAt s.source s.here.mode s.lexeme.stop with
  | .ok l => pure l
  | .error _ => pure {}

def atMark (m : String) : Reader Bool := return (← token).isMark m

def atKeyword (k : String) : Reader Bool := return (← token).isKeyword k

def atWord (w : String) : Reader Bool := return (← token).isWord w

/-- The word at hand as it stands in the source. -/
def wordText : Reader String := do
  let s ← get
  return String.ofList (Lexer.slice s.source s.lexeme.start s.lexeme.stop)

/-- The source from a place up to the end of the last word. -/
def sourceFrom (start : Nat) : Reader String := do
  let s ← get
  return String.ofList (Lexer.slice s.source start s.lastStop)

/-- The complaint about a word that stands where another one is wanted. -/
def unexpected {α : Type} : Reader α := do
  match ← token with
  | .eof => fail "Unexpected end of input"
  | .number _ | .big _ => fail "Unexpected number"
  | .text _ => fail "Unexpected string"
  | .template .. => fail "Unexpected string template"
  | .name s _ => fail ("Unexpected identifier '" ++ s ++ "'")
  | _ => fail ("Unexpected token '" ++ (← wordText) ++ "'")

def expectMark (m : String) : Reader Unit := do
  if ← atMark m then next else unexpected

def expectKeyword (k : String) : Reader Unit := do
  if ← atKeyword k then next else unexpected

/-- The end of a statement: a semicolon, a closing brace, the end of the script or of a line. -/
def expectEnd : Reader Unit := do
  if ← atMark ";" then next
  else
    match ← token with
    | .eof => pure ()
    | t =>
      if t.isMark "\x7d" || (← lexeme).afterLine then pure () else fail "expecting ';'"

def reservedName {α : Type} : Reader α := do
  match ← token with
  | .name s _ => fail ("'" ++ s ++ "' is a reserved identifier")
  | _ => fail ("'" ++ (← wordText) ++ "' is a reserved identifier")

/-- What a look past brackets has found: the word after them and marks within them. -/
structure Glance where
  after : Token := .eof
  afterLine : Bool := false
  semicolon : Bool := false
  ellipsis : Bool := false
  assigns : Bool := false

/-- Whether a stroke after a word begins a regular expression. -/
def allowsPattern : Token → Bool
  | .number _ | .big _ | .text _ => false
  | .keyword k => ! ["null", "false", "true", "this"].contains k
  | .mark m => ! ["++", "--", ")", "]", "\x7d"].contains m
  | .name s _ => s == "of" || s == "yield"
  | _ => true

/-- Goes on from a bracket to the word after the bracket that closes it. The brackets still open are
kept innermost first; `$` stands for one within a template. -/
def glanceFrom (src : Lexer.Source) (mode : Lexer.Mode) :
    Nat → Lexeme → List Char → Option Token → Glance → Glance
  | 0, _, _, _, g => g
  | fuel + 1, l, pending, last, g =>
    let go (l : Lexeme) (pending : List Char) (g : Glance) : Glance :=
      match Lexer.lexemeAt src mode l.stop with
      | .error _ => g
      | .ok n =>
        if pending.isEmpty then { g with after := n.token, afterLine := n.afterLine }
        else glanceFrom src mode fuel n pending (some l.token) g
    let template (l : Lexeme) (pending : List Char) : Glance :=
      match l.token with
      | .template _ false => go l ('$' :: pending) g
      | _ => go l pending g
    match l.token with
    | .eof => g
    | .mark "(" => go l ('(' :: pending) g
    | .mark "[" => go l ('[' :: pending) g
    | .mark "\x7b" => go l ('\x7b' :: pending) g
    | .mark ")" =>
      match pending with
      | '(' :: rest => go l rest g
      | _ => g
    | .mark "]" =>
      match pending with
      | '[' :: rest => go l rest g
      | _ => g
    | .mark "\x7d" =>
      match pending with
      | '\x7b' :: rest => go l rest g
      | '$' :: rest =>
        match Lexer.templateAt src l.stop with
        | .ok part => template part rest
        | .error _ => g
      | _ => g
    | .template .. => template l pending
    | .mark ";" => go l pending (if pending.length = 1 then { g with semicolon := true } else g)
    | .mark "..." => go l pending (if pending.length = 1 then { g with ellipsis := true } else g)
    | .mark "=" => go l pending { g with assigns := true }
    | .mark m =>
      if (m == "/" || m == "/=") && (last.map allowsPattern).getD true then
        match Lexer.patternAt src l.start with
        | .ok (_, _, stop) => go { l with token := .text #[], stop } pending g
        | .error _ => g
      else go l pending g
    | _ => go l pending g

/-- Looks past the brackets that open at the word at hand. -/
def glance : Reader Glance := do
  let s ← get
  return glanceFrom s.source s.here.mode (s.source.size + 2) s.lexeme [] none {}

/-- How a name is declared. -/
inductive Binding where
  | variable
  | lexical
  | constant
  | caught
  | parameter
  deriving DecidableEq

def addPassing (name : String) : List OpenBlock → List OpenBlock
  | [] => []
  | b :: rest =>
    { b with passing := name :: b.passing } :: (if b.isBody then rest else addPassing name rest)

/-- Whether one of the blocks of the function declares the name for itself. The name of a caught
exception does not count. -/
def declaresAround (name : String) : List OpenBlock → Bool
  | [] => false
  | b :: rest =>
    (! b.isHandler && b.declared.any (·.name == name)) || (! b.isBody && declaresAround name rest)

def modifyBlock (f : OpenBlock → OpenBlock) : Reader Unit :=
  modifyHere fun h =>
    match h.blocks with
    | [] => h
    | b :: rest => { h with blocks := f b :: rest }

def redefinition {α : Type} : Reader α := fail "invalid redefinition of lexical identifier"

/-- Declares a name for the whole function. -/
def declareVariable (name : String) : Reader Unit := do
  if declaresAround name (← here).blocks then redefinition
  modifyHere fun h =>
    { h with
      vars := if h.vars.contains name then h.vars else name :: h.vars
      blocks := addPassing name h.blocks }

/-- Whether a block holds a plain function of a name. -/
def OpenBlock.hasFunction (b : OpenBlock) (name : String) : Bool :=
  b.functions.any fun f => f.info.name == name && ! f.info.isAsync && ! f.info.isGenerator

/-- Declares a name for the innermost block. Outside strict code a plain function may take the place
of another one. -/
def declareLexical (name : String) (constant isFunction : Bool) : Reader Unit := do
  let h ← here
  match h.blocks with
  | [] => pure ()
  | b :: _ =>
    if b.caught == some name then redefinition
    if b.declared.any (·.name == name) then
      if isFunction && ! h.isStrict && b.hasFunction name then return ()
      redefinition
    if b.isBody && ! isFunction && h.parameters.contains name then fail "invalid redefinition of parameter name"
    if b.passing.contains name then
      fail (if h.isProgram && ! (← get).isText then "invalid redefinition of global identifier"
        else "invalid redefinition of a variable")
    modifyBlock fun b => { b with declared := b.declared ++ [⟨name, constant⟩] }

/-- Whether a name is one of those that strict code must not give a value. -/
def isProtected (name : String) : Bool := name == "arguments" || name == "eval"

def checkVariableName (name : String) : Reader Unit := do
  if isProtected name && (← here).isStrict then fail "invalid variable name in strict mode"

def duplicateParameter {α : Type} : Reader α :=
  fail "Duplicate parameter name not allowed in this context"

def declare (name : String) : Binding → Reader Unit
  | .variable => do
    checkVariableName name
    declareVariable name
  | .lexical => lexical false
  | .constant => lexical true
  | .caught => do
    checkVariableName name
    modifyBlock fun b => { b with declared := [⟨name, false⟩], isHandler := true }
  | .parameter => do
    if (← here).parameters.contains name then duplicateParameter
    modifyHere fun h => { h with parameters := name :: h.parameters }
where
  lexical (constant : Bool) : Reader Unit := do
    checkVariableName name
    if name == "let" then fail "invalid lexical variable name"
    declareLexical name constant false

def useHidden (name : String) : Reader Unit :=
  modify fun s => { s with hiddenUses := name :: s.hiddenUses }

/-- Reads something inside a block of its own, and gives what the block declares. -/
def inBlock {α : Type} (start : OpenBlock) (body : Reader α) : Reader (α × OpenBlock) := do
  modifyHere fun h => { h with blocks := start :: h.blocks }
  let a ← body
  let h ← here
  match h.blocks with
  | [] => return (a, start)
  | b :: rest =>
    modifyHere fun h => { h with blocks := rest }
    return (a, b)

/-- Reads something that can be left in the given way. -/
def withExit {α : Type} (exit : Exit) (body : Reader α) : Reader α := do
  let before := (← here).exits
  modifyHere fun h => { h with exits := exit :: h.exits }
  let a ← body
  modifyHere fun h => { h with exits := before }
  return a

/-- Reads a name or reserved word again, in the function that it stands in now. -/
def rereadWord : Reader Unit := do
  let s ← get
  match s.lexeme.token with
  | .name .. | .keyword _ =>
    let (token, _) ← ofExcept (Lexer.wordAt s.source s.here.mode s.lexeme.start)
    set { s with lexeme := { s.lexeme with token } }
  | _ => pure ()

/-- Reads a function inside the one at hand, and gives what is known of it at its end. -/
def inFunction {α : Type} (start : OpenFunction) (body : Reader α) : Reader (α × OpenFunction) := do
  modify fun s => { s with here := start, outer := s.here :: s.outer }
  let a ← body
  let s ← get
  let inner := s.here
  set { s with here := s.outer.headD {}, outer := s.outer.drop 1 }
  rereadWord
  return (a, inner)

/-- Where a part of a script begins. -/
structure Origin where
  index : Nat
  position : Position

def origin : Reader Origin := return ⟨(← lexeme).start, ← position⟩

/-- What may stand in the place of a statement besides statements proper. -/
inductive Admitted where
  | nothing
  | functions
  /-- Functions with and without labels. -/
  | labelledFunctions
  | declarations
  deriving DecidableEq

/-- The parts of the grammar that others lead back to. -/
structure Rules where
  /-- An expression without commas; the flag tells whether `in` may be used in it. -/
  assignment : Bool → Reader Expr
  unary : (powerAllowed : Option Bool) → Reader Expr
  statement : Admitted → Reader Statement
  function : FunctionRole → (isAsync isGenerator : Bool) → (name : String) → (start : Origin) →
    Reader Function
  pattern : Option Binding → Reader Pattern
  classOf : Bool → Reader Class

end CollectionRunner.Script.Grammar
