import CollectionRunner.Script.Grammar.Expressions

namespace CollectionRunner.Script.Grammar

/-- What is allowed inside a function, by what it is made for and by what is around it. -/
def openFunction (around : OpenFunction) (role : FunctionRole) (isAsync isGenerator : Bool) :
    OpenFunction :=
  let isStrict := around.isStrict
  match role with
  | .arrow =>
    { role, isAsync, isGenerator, inBody := false, isStrict
      awaitsAround := around.isAsync || around.isStaticBlock
      yieldsAround := around.isGenerator
      newTargetAllowed := around.newTargetAllowed
      superCallAllowed := around.superCallAllowed
      superAllowed := around.superAllowed
      argumentsAllowed := around.argumentsAllowed }
  | .initializer =>
    { role, isStrict, newTargetAllowed := true, superAllowed := true, argumentsAllowed := false }
  | role =>
    { role, isAsync, isGenerator, inBody := false, isStrict
      newTargetAllowed := true
      superCallAllowed := role == .derivedConstructor
      superAllowed := role != .plain }

/-- The parameters of a function. -/
structure Parameters where
  list : Array PatternItem := #[]
  rest : Option Pattern := none
  /-- Some of them hold assignments. -/
  hasInitials : Bool := false
  /-- The number before the first one with a fallback. -/
  required : Nat := 0
  optionalSeen : Bool := false

def accessorArity {α : Type} : Reader α :=
  fail "invalid number of arguments for getter or setter"

/-- A parameter and its fallback. -/
def readParameter (g : Rules) (isGenerator : Bool) : Reader Pattern := do
  if (← atMark "[") || (← atMark "\x7b") then return ← g.pattern (some .parameter)
  match ← token with
  | .name s reserved =>
    if reserved || (s == "yield" && isGenerator) then reservedName
    next
    modifyHere fun h => { h with parameters := s :: h.parameters }
    return .name s
  | _ => fail "missing formal parameter"

def readParametersFrom (g : Rules) (isGenerator : Bool) :
    Nat → Parameters → Reader Parameters
  | 0, _ => fail "stack overflow"
  | n + 1, ps => do
    if ← atMark ")" then return ps
    let isRest ← atMark "..."
    if isRest then next
    let p ← readParameter g isGenerator
    if isRest then
      if ! (← atMark ")") then unexpected
      return { ps with rest := some p }
    let fallback ← readFallback g p
    let optionalSeen := ps.optionalSeen || fallback.isSome
    let ps : Parameters :=
      { ps with
        list := ps.list.push (.item p fallback)
        required := if optionalSeen then ps.required else ps.required + 1
        optionalSeen }
    if ← atMark ")" then return ps
    expectMark ","
    readParametersFrom g isGenerator n ps

/-- The parameters up to the last one. -/
def readParameters (g : Rules) (role : FunctionRole) (isGenerator : Bool) : Reader Parameters := do
  match role, ← token with
  | .arrow, .name s reserved =>
    if reserved then reservedName
    modifyHere fun h => { h with parameters := [s] }
    return { list := #[.item (.name s) none], required := 1 }
  | _, _ =>
    let hasInitials ← if ← atMark "(" then pure (← glance).assigns else pure false
    expectMark "("
    let ps ← readParametersFrom g isGenerator (← fuel) { hasInitials }
    let count := ps.list.size + (if ps.rest.isSome then 1 else 0)
    if (role == .getter && count != 0) || (role == .setter && count != 1) then accessorArity
    return ps

/-- Whether all parameters are names. -/
def Parameters.areNames (ps : Parameters) : Bool :=
  ps.rest.isNone && ps.list.all fun
    | .item (.name _) none => true
    | _ => false

/-- Parameters whose name is that of a later one, too, have none. -/
def Parameters.withoutDoubles (ps : Parameters) : Parameters :=
  let later (i : Nat) (s : String) : Bool :=
    (ps.list.toList.drop (i + 1)).any fun
      | .item (.name s') _ => s' == s
      | _ => false
  { ps with
    list := ps.list.mapIdx fun i p =>
      match p with
      | .item (.name s) none => if later i s then .item (.name "") none else p
      | p => p }

/-- Complains about names that a function must not have. -/
def checkNames (name : String) (ps : Parameters) : Reader Unit := do
  let h ← here
  if h.isStrict then
    if h.saysStrict && ! ps.areNames then
      fail "\"use strict\" not allowed in function with default or destructuring parameter"
    if isProtected name then fail "invalid function name in strict code"
    if h.parameters.any isProtected then fail "invalid argument name in strict code"
  if (h.isStrict || ! ps.areNames || h.role != .plain) && ! h.parameters.Nodup then
    duplicateParameter

/-- Goes past the texts that a body begins with; the flag tells whether one of them asks for strict
code. -/
def skipDirectives : Nat → Reader Unit
  | 0 => return ()
  | n + 1 => do
    match ← token with
    | .text _ =>
      let word ← wordText
      next
      let semicolon ← atMark ";"
      if semicolon then next
      let ends ← show Reader Bool from do
        match ← token with
        | .eof => return true
        | .mark m => return m == "\x7d" || ((m == "++" || m == "--") && (← lexeme).afterLine)
        | .keyword k => return k != "in" && k != "instanceof" && (← lexeme).afterLine
        | _ => return (← lexeme).afterLine
      if semicolon || ends then
        if word.drop 1 == "use strict\"" || word.drop 1 == "use strict'" then
          modifyHere fun h => { h with isStrict := true, saysStrict := true }
        skipDirectives n
    | _ => return ()

/-- Finds out what the texts say that the statements at hand begin with. -/
def readDirectives : Reader Unit := do
  let saved ← get
  skipDirectives (← fuel)
  let h ← here
  set saved
  modifyHere fun _ => h

/-- Statements up to a closing brace, as the body of a function. -/
def readBody (g : Rules) : Reader Block := do
  let (statements, block) ← inBlock { isBody := true } do
    readList do
      if ← atMark "\x7d" then return none
      return some (← g.statement .declarations)
  return .mk block.declared block.functions statements

/-- What is known of a function of the text at hand. -/
def infoOf (start : Origin) (source : String) (inner : OpenFunction) : Reader FunctionInfo := do
  return { name := "", role := inner.role, isAsync := inner.isAsync,
           isGenerator := inner.isGenerator, parameters := inner.parameters, vars := inner.vars,
           isStrict := inner.isStrict, source, file := (← get).file, start := start.position }

/-- A function from its parameters on. -/
def readFunctionRest (g : Rules) (role : FunctionRole) (isAsync isGenerator : Bool)
    (name : String) (selfName : Option String) (start : Origin) : Reader Function := do
  let around ← here
  let ((ps, body, source), inner) ← inFunction (openFunction around role isAsync isGenerator) do
    let ps ← readParameters g role isGenerator
    next
    modifyHere fun h => { h with inBody := true }
    if role == .arrow then
      expectMark "=>"
      if ! (← atMark "\x7b") then
        checkNames name ps
        let (e, _) ← inBlock { isBody := true } (g.assignment true)
        return (ps, Block.mk [] [] [.return (some e)], ← sourceFrom start.index)
    expectMark "\x7b"
    readDirectives
    checkNames name ps
    let body ← readBody g
    next
    let doubles := ! (← here).parameters.Nodup
    return (if doubles then ps.withoutDoubles else ps, body, ← sourceFrom start.index)
  let info ← infoOf start source inner
  return .mk
    { info with
      name, selfName, length := ps.required, hasInitials := ps.hasInitials }
    ps.list.toList ps.rest body

/-- A function in an expression. The word at hand is `function` for a plain one, and the start of
the parameters for the others. -/
def readFunction (g : Rules) (role : FunctionRole) (isAsync isGenerator : Bool) (name : String)
    (start : Origin) : Reader Function := do
  if role != .plain then readFunctionRest g role isAsync isGenerator name none start
  else
    next
    let isGenerator ← atMark "*"
    if isGenerator then next
    match ← token with
    | .name s reserved =>
      if reserved || (s == "await" && isAsync) then reservedName
      next
      readFunctionRest g role isAsync isGenerator s (some s) start
    | _ => readFunctionRest g role isAsync isGenerator "" none start

/-- Whether a function of the innermost block goes to a variable around the block as well: a plain
one outside strict code, where the name means nothing else. -/
def goesOutward (h : OpenFunction) (name : String) (isPlain : Bool) : Bool :=
  isPlain && ! h.isStrict && ! declaresAround name h.blocks && ! h.parameters.contains name

/-- The declaration of a function. One with a label belongs to a block, even where that is the body
of a function. -/
def readFunctionDeclaration (g : Rules) (hasLabel : Bool) : Reader Statement := do
  let start ← origin
  let isAsync ← atWord "async"
  if isAsync then next
  next
  let isGenerator ← atMark "*"
  if isGenerator then next
  match ← token with
  | .name s reserved =>
    if reserved then reservedName
    next
    let h ← here
    let isPlain := ! isAsync && ! isGenerator
    let atBody := (h.blocks.head?.map (·.isBody)).getD true
    let isOwn := atBody && ! hasLabel
    let outward := ! isOwn && (h.isProgram || ! atBody) && goesOutward h s isPlain
    if ! isOwn then declareLexical s false isPlain
    let f ← readFunctionRest g .plain isAsync isGenerator s none start
    if isOwn then
      if h.isProgram then
        modifyHere fun h =>
          { h with
            vars := if h.vars.contains s then h.vars else s :: h.vars
            blocks := addPassing s h.blocks }
      else declareVariable s
    modifyBlock fun b => { b with functions := b.functions ++ [f] }
    if outward then
      modifyHere fun h => { h with vars := if h.vars.contains s then h.vars else s :: h.vars }
      return .outward f
    return .empty
  | _ => fail "function name expected"

/-- What a class has so far. -/
structure ClassParts where
  members : Array ClassMember := #[]
  maker : Option Function := none
  /-- Hidden names, and which side of an accessor each is, of the class itself or of its objects. -/
  hidden : List (String × Option (FunctionRole × Bool)) := []

/-- Declares a hidden name; a name may be declared twice only for reading and for writing. -/
def declareHidden (name : String) (role : Option (FunctionRole × Bool)) (parts : ClassParts) :
    Reader ClassParts := do
  let pairs (r : Option (FunctionRole × Bool)) : Bool :=
    match role, r with
    | some (.getter, a), some (.setter, b) => a == b
    | some (.setter, a), some (.getter, b) => a == b
    | _, _ => false
  if parts.hidden.any fun (s, r) => s == name && ! pairs r then
    fail "private class field is already defined"
  return { parts with hidden := (name, role) :: parts.hidden }

def isKeyNamed (name : PropertyName) (s : String) : Bool :=
  match name with
  | .key k => k == .ofString s
  | _ => false

def hiddenName : PropertyName → Option String
  | .hidden s => some s
  | _ => none

/-- A value that each new object of a class gets. -/
def readFieldValue (g : Rules) (name : PropertyName) : Reader (Option Function) := do
  if ! (← atMark "=") then return none
  let around ← here
  let ((e, start, source), inner) ← inFunction (openFunction around .initializer false false) do
    next
    let start ← origin
    let (e, _) ← inBlock { isBody := true } (g.assignment true)
    return (e, start, ← sourceFrom start.index)
  let value := e.named name.functionName
  return some (.mk (← infoOf start source inner) [] none (.mk [] [] [.return (some value)]))

def readStaticBlock (g : Rules) : Reader Function := do
  let around ← here
  let start ← origin
  let block := { openFunction around .initializer false false with isStaticBlock := true }
  let ((body, source), inner) ← inFunction block do
    next
    let body ← readBody g
    next
    return (body, ← sourceFrom start.index)
  return .mk (← infoOf start source inner) [] none body

def readMethod (g : Rules) (isStatic : Bool) (name : PropertyName) (role : FunctionRole)
    (isAsync isGenerator : Bool) (start : Origin) (parts : ClassParts) : Reader ClassParts := do
  let side : Option (FunctionRole × Bool) :=
    if role == .method then none else some (role, isStatic)
  let parts ←
    match hiddenName name with
    | some s => declareHidden s side parts
    | none => pure parts
  let f ← g.function role isAsync isGenerator name.functionName start
  return { parts with members := parts.members.push (.method isStatic name f) }

def invalidMethod {α : Type} : Reader α := fail "invalid method name"

def checkMethodName (name : PropertyName) (isStatic : Bool) (special : Bool) : Reader Unit := do
  if isKeyNamed name "constructor" && ! isStatic && special then invalidMethod
  if isKeyNamed name "prototype" && isStatic then invalidMethod
  if hiddenName name == some "constructor" then invalidMethod

def readClassMember (g : Rules) (derived : Bool) (parts : ClassParts) : Reader ClassParts := do
  let isStatic ← show Reader Bool from do
    if ! (← atKeyword "static") then return false
    let t := (← peek).token
    return ! [";", "\x7d", "(", "="].any t.isMark
  if isStatic then
    next
    if ← atMark "\x7b" then
      let f ← readStaticBlock g
      return { parts with members := parts.members.push (.staticBlock f) }
  let start ← origin
  match ← readPropertyForm g true with
  | .getter name =>
    checkMethodName name isStatic true
    readMethod g isStatic name .getter false false start parts
  | .setter name =>
    checkMethodName name isStatic true
    readMethod g isStatic name .setter false false start parts
  | .method name isAsync isGenerator =>
    checkMethodName name isStatic true
    readMethod g isStatic name .method isAsync isGenerator start parts
  | .named name _ =>
    checkMethodName name isStatic false
    if ← atMark "(" then
      if isKeyNamed name "constructor" && ! isStatic then
        if parts.maker.isSome then fail "property constructor appears more than once"
        let role : FunctionRole := if derived then .derivedConstructor else .constructor
        let f ← g.function role false false "" start
        return { parts with maker := some f }
      else readMethod g isStatic name .method false false start parts
    else
      if isKeyNamed name "constructor" then fail "invalid field name"
      let parts ←
        match hiddenName name with
        | some s => declareHidden s none parts
        | none => pure parts
      let value ← readFieldValue g name
      expectEnd
      return { parts with members := parts.members.push (.field isStatic name value) }

def readClass (g : Rules) (isExpr : Bool) : Reader Class := do
  let start ← origin
  let wasStrict := (← here).isStrict
  modifyHere fun h => { h with isStrict := true }
  next
  let binding ← show Reader (Option String) from do
    match ← token with
    | .name s reserved =>
      if reserved then reservedName
      next
      return some s
    | _ => if isExpr then return none else fail "class statement requires a name"
  let heritage ← show Reader (Option Expr) from do
    if ← atKeyword "extends" then
      next
      return some (← readPostfix g)
    return none
  expectMark "\x7b"
  let usesBefore := (← get).hiddenUses
  modify fun s => { s with hiddenUses := [] }
  let rec members : Nat → ClassParts → Reader ClassParts
    | 0, _ => fail "stack overflow"
    | n + 1, parts => do
      if ← atMark "\x7d" then return parts
      if ← atMark ";" then
        next
        members n parts
      else members n (← readClassMember g heritage.isSome parts)
  let parts ← members (← fuel) {}
  modifyHere fun h => { h with isStrict := wasStrict }
  next
  modify fun s =>
    { s with
      hiddenUses := (s.hiddenUses.filter fun u => ! parts.hidden.any (·.1 == u)) ++ usesBefore }
  let source ← sourceFrom start.index
  let file := (← get).file
  return .mk binding (binding.getD "") heritage parts.maker parts.members.toList source
    (file, start.position)

end CollectionRunner.Script.Grammar
