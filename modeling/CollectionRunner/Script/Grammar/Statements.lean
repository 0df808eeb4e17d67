import CollectionRunner.Script.Grammar.Functions

namespace CollectionRunner.Script.Grammar

/-- A block between braces. -/
def readBlock (g : Rules) (start : OpenBlock) : Reader Block := do
  expectMark "\x7b"
  let (statements, block) ← inBlock start do
    readList do
      if ← atMark "\x7d" then return none
      return some (← g.statement .declarations)
  next
  return .mk block.declared block.functions statements

/-- Whether the statements at hand give an evaluated text its value. -/
def givesResult : Reader Bool := return (← get).isText && (← here).isProgram

def readParens (g : Rules) : Reader Expr := do
  expectMark "("
  let e ← readSequence g true
  expectMark ")"
  return e

/-- Names with their first values. -/
def readDeclarations (g : Rules) (binding : Binding) (inAllowed : Bool) :
    Reader (List (Pattern × Option Expr)) := do
  let one : Reader (Pattern × Option Expr) := do
    match ← token with
    | .name s reserved =>
      if reserved then reservedName
      next
      declare s binding
      if ← atMark "=" then
        next
        return (.name s, some ((← g.assignment inAllowed).named s))
      if binding == .constant then fail "missing initializer for const variable"
      return (.name s, none)
    | t =>
      if ← pure (t.isMark "[" || t.isMark "\x7b") <&&> (·.after.isMark "=") <$> glance then
        let p ← g.pattern (some binding)
        expectMark "="
        return (p, some (← g.assignment inAllowed))
      else fail "variable name expected"
  let first ← one
  let rest ← readList do
    if ← atMark "," then
      next
      return some (← one)
    return none
  return first :: rest

/-- Outside strict code `let` is a name, unless something that can be declared follows it: on the
same line, where no declaration may stand. -/
def promoteLet (declarations : Bool) : Reader Unit := do
  if ← atWord "let" then
    let l ← peek
    let t := l.token
    if t.isMark "[" || ((t.isMark "\x7b" || t.isFreeName) && (declarations || ! l.afterLine)) then
      modify fun s => { s with lexeme := { s.lexeme with token := .keyword "let" } }

def bindingOf : Token → Option Binding
  | .keyword "var" => some .variable
  | .keyword "let" => some .lexical
  | .keyword "const" => some .constant
  | _ => none

def declaration (binding : Binding) (list : List (Pattern × Option Expr)) : Statement :=
  if binding == .variable then .vars list else .lexical list

def loopExit (label : Option String) : Exit := ⟨label, true, true⟩

/-- The body of a loop. -/
def readLoopBody (g : Rules) (label : Option String) : Reader Statement :=
  withExit (loopExit label) (g.statement .nothing)

def readWhileLoop (g : Rules) (label : Option String) : Reader Statement := do
  next
  let c ← readParens g
  return .while c (← readLoopBody g label)

def readDoLoop (g : Rules) (label : Option String) : Reader Statement := do
  next
  let body ← readLoopBody g label
  expectKeyword "while"
  let c ← readParens g
  if ← atMark ";" then next
  return .doWhile body c

/-- A loop over names or values, from after its opening parenthesis on. -/
def readForEach (g : Rules) (label : Option String) (isAwait : Bool) : Reader Statement := do
  let ((isLexical, isOf, target, subject, body), block) ← inBlock {} do
    let binding := bindingOf (← token)
    let destructures ← show Reader Bool from do
      match binding with
      | some _ =>
        let t := (← peek).token
        return t.isMark "[" || t.isMark "\x7b"
      | none => return false
    let target ← show Reader Pattern from do
      match binding with
      | some b =>
        next
        match ← token with
        | .name s false =>
          next
          declare s b
          return .name s
        | t =>
          if t.isMark "[" || t.isMark "\x7b" then g.pattern (some b)
          else fail "variable name expected"
      | none =>
        if ← pure (! isAwait) <&&> atWord "async" <&&> (·.token.isWord "of") <$> peek then
          fail "'for of' expression cannot start with 'async'"
        if (← atMark "[") || (← atMark "\x7b") then
          let t := (← glance).after
          if t.isWord "of" || t.isKeyword "in" then g.pattern none
          else targetOf (← readPostfix g) "invalid for in/of left hand-side"
        else targetOf (← readPostfix g) "invalid for in/of left hand-side"
    let value ← show Reader (Option Expr) from do
      if ! (← atMark "=") then return none
      next
      return some (← g.assignment false)
    let hasValue := value.isSome
    let isOf ← atWord "of"
    if isOf then
      if hasValue then
        fail "a declaration in the head of a for-of loop can't have an initializer"
    else if ← atKeyword "in" then
      if isAwait then fail "'for await' loop should be used with 'of'"
      if hasValue && (destructures || binding != some .variable || (← here).isStrict) then
        fail "a declaration in the head of a for-in loop can't have an initializer"
    else fail "expected 'of' or 'in' in for control expression"
    next
    let subject ← if isOf then g.assignment true else readSequence g true
    let subject := match value with
      | some e => .sequence (.assign target (target.nameFor e)) subject
      | none => subject
    expectMark ")"
    let body ← readLoopBody g label
    let isLexical := binding == some .lexical || binding == some .constant
    return (isLexical, isOf, target, subject, body)
  return if isOf then .forOf block.declared isLexical isAwait target subject body
    else .forIn block.declared isLexical target subject body

def readFor (g : Rules) (label : Option String) : Reader Statement := do
  next
  let isAwait ← atKeyword "await"
  if isAwait then next
  let semicolon ← if ← atMark "(" then pure (← glance).semicolon else pure false
  expectMark "("
  promoteLet true
  if ! semicolon then readForEach g label isAwait
  else
    let (s, block) ← inBlock {} do
      let init ← show Reader (Option Statement) from do
        if ← atMark ";" then return none
        match bindingOf (← token) with
        | some b =>
          next
          return some (declaration b (← readDeclarations g b false))
        | none =>
          let at' ← position
          return some (.expr (← readSequence g false) at')
      expectMark ";"
      let test ← if ← atMark ";" then pure none else pure (some (← readSequence g true))
      expectMark ";"
      let step ← if ← atMark ")" then pure none else pure (some (← readSequence g true))
      expectMark ")"
      let body ← readLoopBody g label
      return (init, test, step, body)
    let (init, test, step, body) := s
    return .for block.declared init test step body

/-- A choice. Outside strict code its branches may be functions, which belong to a block of its
own. -/
def readIf (g : Rules) : Reader Statement := do
  next
  let (s, block) ← inBlock {} do
    let c ← readParens g
    let admitted : Admitted := if (← here).isStrict then .nothing else .functions
    let t ← g.statement admitted
    if ← atKeyword "else" then
      next
      return .ifElse c t (some (← g.statement admitted))
    return .ifElse c t none
  return if block.declared.isEmpty then s else .block (.mk block.declared block.functions [s])

/-- A statement in which the properties of an object come before all names around it. -/
def readWithin (g : Rules) : Reader Statement := do
  if (← here).isStrict then fail "invalid keyword: with"
  next
  let e ← readParens g
  return .within e (← g.statement .nothing)

/-- The clauses of a switch: each with its value, or with none for the default. -/
def readClauses (g : Rules) : Reader (List (Option Expr × List Statement)) := do
  let rec clauses : Nat → Array (Option Expr × List Statement) →
      Reader (List (Option Expr × List Statement))
    | 0, _ => fail "stack overflow"
    | n + 1, acc => do
      if ← atMark "\x7d" then return acc.toList
      let value ← show Reader (Option Expr) from do
        if ← atKeyword "case" then
          next
          let e ← readSequence g true
          expectMark ":"
          return some e
        else if ← atKeyword "default" then
          next
          expectMark ":"
          if acc.any (·.1.isNone) then fail "duplicate default"
          return none
        else fail "invalid switch statement"
      let body ← readList do
        if (← atMark "\x7d") || (← atKeyword "case") || (← atKeyword "default") then return none
        return some (← g.statement .declarations)
      clauses n (acc.push (value, body))
  clauses (← fuel) #[]

def readSwitch (g : Rules) (label : Option String) : Reader Statement := do
  next
  let e ← readParens g
  let (cases, block) ← inBlock {} (withExit ⟨label, false, true⟩ do
    expectMark "\x7b"
    let cases ← readClauses g
    next
    return cases)
  return .switch e block.declared block.functions cases

def readTry (g : Rules) : Reader Statement := do
  next
  let body ← readBlock g {}
  let handler ← show Reader (Option (Option Pattern × List Declared × Block)) from do
    if ! (← atKeyword "catch") then
      if ! (← atKeyword "finally") then fail "expecting catch or finally"
      return none
    next
    let ((p, b), block) ← inBlock {} do
      let p ← show Reader (Option Pattern) from do
        if ← atMark "\x7b" then return none
        expectMark "("
        let p ← show Reader Pattern from do
          match ← token with
          | .name s false =>
            next
            declare s .caught
            return .name s
          | t =>
            if t.isMark "[" || t.isMark "\x7b" then g.pattern (some .lexical)
            else fail "identifier expected"
        expectMark ")"
        return some p
      let caught := match p with
        | some (.name s) => some s
        | _ => none
      let b ← readBlock g { caught }
      return (p, b)
    return some (p, block.declared, b)
  let finalizer ← show Reader (Option Block) from do
    if ← atKeyword "finally" then
      next
      let b ← readBlock g {}
      return some (if ← givesResult then .mk [] [] [.sparing b] else b)
    return none
  return .try body handler finalizer

def checkExit (label : Option String) (isContinue : Bool) : Reader Unit := do
  let exits := (← here).exits
  match label with
  | none =>
    if isContinue then
      if ! exits.any (·.isLoop) then fail "continue must be inside loop"
    else if ! exits.any (·.isPlain) then fail "break must be inside loop or switch"
  | some s =>
    if ! exits.any fun e => e.label == some s && (e.isLoop || ! isContinue) then
      fail "break/continue label not found"

/-- `break` or `continue`. -/
def readJump (isContinue : Bool) : Reader Statement := do
  next
  let l ← lexeme
  let label : Option String :=
    match l.token with
    | .name s false => if l.afterLine then none else some s
    | _ => none
  checkExit label isContinue
  if label.isSome then next
  expectEnd
  return if isContinue then .continue label else .break label

def readReturn (g : Rules) : Reader Statement := do
  let h ← here
  if h.isProgram then fail "return not in a function"
  if h.role == .initializer then fail "return in a static initializer block"
  next
  let bare := (← atMark ";") || (← atMark "\x7d") || (← lexeme).afterLine
  let e ← if bare then pure none else pure (some (← readSequence g true))
  expectEnd
  return .return e

def readThrow (g : Rules) : Reader Statement := do
  next
  if (← lexeme).afterLine then fail "line terminator not allowed after throw"
  let at' ← position
  let e ← readSequence g true
  expectEnd
  return .throw e at'

def readExpression (g : Rules) : Reader Statement := do
  let at' ← position
  let e ← readSequence g true
  expectEnd
  return if ← givesResult then .result e at' else .expr e at'

/-- A statement that has no value of its own unless a part of it has one. -/
def clearing (body : Reader Statement) : Reader Statement := do
  let s ← body
  return if ← givesResult then .clearing s else s

/-- A statement after its label, if it has one. -/
def readPlain (g : Rules) (admitted : Admitted) (label : Option String) : Reader Statement := do
  let declarations := admitted = .declarations
  let badFunction {α : Type} : Reader α :=
    fail "function declarations can't appear in single-statement context"
  promoteLet declarations
  match ← token with
  | .mark "\x7b" => return .block (← readBlock g {})
  | .mark ";" =>
    next
    return .empty
  | .keyword k =>
    match k with
    | "return" => readReturn g
    | "throw" => readThrow g
    | "let" | "const" | "var" =>
      let b : Binding :=
        if k == "let" then .lexical else if k == "const" then .constant else .variable
      if b != .variable && ! declarations then
        fail "lexical declarations can't appear in single-statement context"
      next
      let list ← readDeclarations g b true
      expectEnd
      return declaration b list
    | "if" => clearing (readIf g)
    | "while" => clearing (readWhileLoop g label)
    | "do" => clearing (readDoLoop g label)
    | "for" => clearing (readFor g label)
    | "break" => readJump false
    | "continue" => readJump true
    | "switch" => clearing (readSwitch g label)
    | "try" => clearing (readTry g)
    | "with" => clearing (readWithin g)
    | "function" =>
      if admitted = .nothing then badFunction
      if ! declarations then
        if (← peek).token.isMark "*" then badFunction
      readFunctionDeclaration g (admitted = .labelledFunctions)
    | "class" =>
      if ! declarations then fail "class declarations can't appear in single-statement context"
      let c ← g.classOf false
      match c with
      | .mk (some s) .. => declare s .lexical
      | _ => pure ()
      return .classDeclaration c
    | "debugger" =>
      next
      expectEnd
      return .empty
    | "enum" | "export" | "extends" => fail ("unsupported keyword: " ++ k)
    | _ => readExpression g
  | .name s reserved =>
    if reserved then reservedName
    let l ← peek
    if s == "async" && ! l.afterLine && l.token.isKeyword "function" then
      if ! declarations then badFunction
      readFunctionDeclaration g false
    else readExpression g
  | _ => readExpression g

/-- A statement with its labels. -/
def readStatement (g : Rules) (admitted : Admitted) : Reader Statement := do
  match ← token with
  | .name s false =>
    if (← peek).token.isMark ":" then
      if (← here).exits.any (·.label == some s) then fail "duplicate label name"
      next
      next
      if (← atKeyword "for") || (← atKeyword "do") || (← atKeyword "while") then
        return .labelled s (← readPlain g admitted (some s))
      else
        let inner : Admitted :=
          if ! (← here).isStrict && (admitted = .labelledFunctions || admitted = .declarations) then
            .labelledFunctions
          else .nothing
        return .labelled s (← withExit ⟨some s, false, false⟩ (g.statement inner))
    else readPlain g admitted none
  | _ => readPlain g admitted none

/-- The grammar, where parts may stand in one another `depth` times at most. -/
def rules : Nat → Rules
  | 0 =>
    { assignment := fun _ => fail "stack overflow"
      unary := fun _ => fail "stack overflow"
      statement := fun _ => fail "stack overflow"
      function := fun _ _ _ _ _ => fail "stack overflow"
      pattern := fun _ => fail "stack overflow"
      classOf := fun _ => fail "stack overflow" }
  | n + 1 =>
    { assignment := fun inAllowed s => readAssignment (rules n) inAllowed s
      unary := fun power s => readUnary (rules n) power s
      statement := fun admitted s => readStatement (rules n) admitted s
      function := fun role isAsync isGenerator name start s =>
        readFunction (rules n) role isAsync isGenerator name start s
      pattern := fun binding s => readPattern (rules n) binding s
      classOf := fun isExpr s => readClass (rules n) isExpr s }

end Grammar

/-- What a text may make use of that is around it. -/
structure Surroundings where
  /-- The name of the text in messages. -/
  file : String := "<input>"
  /-- The text is evaluated, so that it has a value. -/
  isText : Bool := true
  isStrict : Bool := true
  newTargetAllowed : Bool := false
  superAllowed : Bool := false
  superCallAllowed : Bool := false
  argumentsAllowed : Bool := true
  /-- Hidden names that are known around it. -/
  hidden : List String := []

/-- A script, or a text that is evaluated. -/
structure Program where
  vars : List String
  body : Block
  file : String
  isStrict : Bool
  /-- The number of templates handed to functions, in it and before it. -/
  sites : Nat

namespace Grammar

/-- How deep the parts of a source may stand in one another: each begins with a word of its own. -/
def depthOf (source : Lexer.Source) : Nat := 4 * source.size + 64

def readProgram (g : Rules) (around : Surroundings) : Reader Program := do
  let (statements, block) ← inBlock { isBody := true } do
    next
    readDirectives
    readList do
      match ← token with
      | .eof => return none
      | _ => return some (← g.statement .declarations)
  let s ← get
  match s.hiddenUses.filter fun u => ! around.hidden.contains u with
  | u :: _ => fail ("undefined private field '#" ++ u ++ "'")
  | [] =>
    return { vars := s.here.vars.reverse, body := .mk block.declared block.functions statements,
             file := around.file, isStrict := s.here.isStrict, sites := s.site }

/-- The place after a first line that names a program to run the text with. -/
def firstPlace (source : Lexer.Source) : Nat :=
  if Lexer.charAt source 0 == '#' && Lexer.charAt source 1 == '!' then
    Lexer.lineEnd source source.size 2
  else 0

/-- The state in which a text begins to be read. -/
def Surroundings.start (around : Surroundings) (source : Lexer.Source) (firstSite : Nat) : State :=
  let here : OpenFunction :=
    { isProgram := true
      isStrict := around.isStrict
      newTargetAllowed := around.newTargetAllowed
      superAllowed := around.superAllowed
      superCallAllowed := around.superCallAllowed
      argumentsAllowed := around.argumentsAllowed }
  { source, here, lexeme := { stop := firstPlace source }, file := around.file,
    isText := around.isText, site := firstSite }

end Grammar

/-- The program that a text is, or the complaint about it and its place. -/
def Program.ofString (text : String) (around : Surroundings) (firstSite : Nat) :
    Except (String × Position) Program :=
  let source := text.toList.toArray
  match Grammar.readProgram (Grammar.rules (Grammar.depthOf source)) around
      (Grammar.Surroundings.start around source firstSite) with
  | .ok p _ => .ok p
  | .error e s => .error (e, s.position)

end CollectionRunner.Script
