import CollectionRunner.Script.Grammar.Basic
import CollectionRunner.Script.Regexp.Reader

namespace CollectionRunner.Script.Grammar

/-- What an expression means on the left of an assignment. -/
def targetOf (e : Expr) (complaint : String) : Reader Pattern :=
  match e with
  | .name s => do
    if isProtected s && (← here).isStrict then fail "invalid lvalue in strict mode"
    return .name s
  | .member .. | .element .. | .hiddenMember .. | .superMember .. | .superElement .. =>
    pure (.target e)
  | _ => fail complaint

def badAssignment : String := "invalid assignment left-hand side"

/-- What stands at the start of a property. -/
inductive PropertyForm where
  /-- A name, and the variable that it could name as well. -/
  | named (name : PropertyName) (shorthand : Option String)
  | getter (name : PropertyName)
  | setter (name : PropertyName)
  | method (name : PropertyName) (isAsync isGenerator : Bool)

/-- The name itself, and the variable that it could name. -/
def readPropertyName (g : Rules) (hiddenAllowed : Bool) :
    Reader (PropertyName × Option String) := do
  match ← token with
  | .name s reserved =>
    next
    return (.key (.ofString s), if reserved then none else some s)
  | .keyword s =>
    next
    return (.key (.ofString s), none)
  | .text u =>
    next
    return (.key (.ofUnits u), none)
  | .number x =>
    next
    return (.key (.ofString (numberText x)), none)
  | .big n =>
    next
    return (.key (.ofString (toString n)), none)
  | .mark "[" =>
    next
    let e ← g.assignment true
    expectMark "]"
    return (.computed e, none)
  | .hidden s =>
    if hiddenAllowed then
      next
      return (.hidden s, none)
    else fail "invalid property name"
  | _ => fail "invalid property name"

/-- Whether a word that could begin an accessor or an asynchronous method is itself the name. -/
def endsPropertyName (t : Token) : Bool :=
  [":", ",", "\x7d", "(", "=", ";"].any t.isMark

def readMethodName (g : Rules) (hiddenAllowed : Bool) : Reader PropertyName := do
  let (name, _) ← readPropertyName g hiddenAllowed
  if ! (← atMark "(") then fail "invalid property name"
  return name

/-- The start of a property of a literal or a class. -/
def readPropertyForm (g : Rules) (hiddenAllowed : Bool) : Reader PropertyForm := do
  let plain : Reader PropertyForm := do
    let (name, shorthand) ← readPropertyName g hiddenAllowed
    return .named name shorthand
  match ← token with
  | .name "get" false =>
    next
    if endsPropertyName (← token) then return .named (.key (.ofString "get")) (some "get")
    return .getter (← readMethodName g hiddenAllowed)
  | .name "set" false =>
    next
    if endsPropertyName (← token) then return .named (.key (.ofString "set")) (some "set")
    return .setter (← readMethodName g hiddenAllowed)
  | .mark "*" =>
    next
    return .method (← readMethodName g hiddenAllowed) false true
  | .name "async" false =>
    if (← peek).afterLine then plain
    else
      next
      if endsPropertyName (← token) then return .named (.key (.ofString "async")) (some "async")
      let isGenerator ← atMark "*"
      if isGenerator then next
      return .method (← readMethodName g hiddenAllowed) true isGenerator
  | _ => plain

/-- Repeats `body` as long as it says so, `fuel` times at most. -/
def readWhile : Nat → Reader Bool → Reader Unit
  | 0, _ => fail "stack overflow"
  | fuel + 1, body => do
    if ← body then readWhile fuel body

/-- Reads parts until `body` gives no more. -/
def readMany {α : Type} : Nat → Reader (Option α) → Array α → Reader (Array α)
  | 0, _, _ => fail "stack overflow"
  | fuel + 1, body, acc => do
    match ← body with
    | some a => readMany fuel body (acc.push a)
    | none => return acc

def fuel : Reader Nat := return (← get).source.size + 2

def readList {α : Type} (body : Reader (Option α)) : Reader (List α) := do
  return (← readMany (← fuel) body #[]).toList

/-- An expression with commas. -/
def readSequence (g : Rules) (inAllowed : Bool) : Reader Expr := do
  let first ← g.assignment inAllowed
  let rest ← readList do
    if ← atMark "," then
      next
      return some (← g.assignment inAllowed)
    return none
  return rest.foldl .sequence first

def readArray (g : Rules) : Reader Expr := do
  next
  let items ← readList do
    if ← atMark "]" then return none
    if ← atMark "," then
      next
      return some Item.hole
    let spread ← atMark "..."
    if spread then next
    let e ← g.assignment true
    if ← atMark "," then next
    else if ! (← atMark "]") then unexpected
    return some (if spread then .spread e else .one e)
  expectMark "]"
  return .array items

/-- Whether an object literal has set its prototype already. -/
def setsPrototype (members : Array Member) : Bool :=
  members.any fun m =>
    match m with
    | .prototype _ => true
    | _ => false

def readMember (g : Rules) (before : Array Member) : Reader Member := do
  let start ← origin
  if ← atMark "..." then
    next
    return .spread (← g.assignment true)
  match ← readPropertyForm g false with
  | .getter name => return .method name (← g.function .getter false false name.functionName start)
  | .setter name => return .method name (← g.function .setter false false name.functionName start)
  | .method name isAsync isGenerator =>
    return .method name (← g.function .method isAsync isGenerator name.functionName start)
  | .named name shorthand =>
    if ← atMark "(" then
      return .method name (← g.function .method false false name.functionName start)
    match shorthand, ← atMark ":" with
    | some s, false =>
      if s == "arguments" && ! (← here).argumentsAllowed then
        fail "'arguments' identifier is not allowed in class field initializer"
      return .property name (.name s)
    | _, _ =>
      expectMark ":"
      let value ← g.assignment true
      match name with
      | .key k =>
        if k == .ofString "__proto__" then
          if setsPrototype before then fail "duplicate __proto__ property name"
          return .prototype value
        else return .property name (value.named k.shown)
      | _ => return .property name value

def readObject (g : Rules) : Reader Expr := do
  next
  let rec members : Nat → Array Member → Reader (Array Member)
    | 0, _ => fail "stack overflow"
    | n + 1, acc => do
      if ← atMark "\x7d" then return acc
      let acc := acc.push (← readMember g acc)
      if ← atMark "," then
        next
        members n acc
      else return acc
  let list ← members (← fuel) #[]
  expectMark "\x7d"
  return .object list.toList

/-- The parts of a template from the word at hand on: what is written and the expressions. -/
def readTemplate (g : Rules) : Reader (List (List Char) × List Expr) := do
  let rec parts : Nat → Array (List Char) → Array Expr → Reader (List (List Char) × List Expr)
    | 0, _, _ => fail "stack overflow"
    | n + 1, texts, exprs => do
      match ← token with
      | .template raw true =>
        next
        return ((texts.push raw).toList, exprs.toList)
      | .template raw false =>
        next
        let e ← readSequence g true
        if ! (← atMark "\x7d") then fail "expected '\x7d' after template expression"
        let s ← get
        let part ← ofExcept (Lexer.templateAt s.source s.lexeme.stop)
        set (s.advance part)
        parts n (texts.push raw) (exprs.push e)
      | _ => unexpected
  parts (← fuel) #[] #[]

def readPlainTemplate (g : Rules) : Reader Expr := do
  let (texts, exprs) ← readTemplate g
  let cooked ← texts.mapM fun raw => ofExcept (Lexer.cook raw)
  return .template (cooked.headD #[]) (exprs.zip (cooked.drop 1))

def readTaggedTemplate (g : Rules) (tag : Expr) : Reader Expr := do
  let (texts, exprs) ← readTemplate g
  let cooked := texts.map fun raw => (Lexer.cook raw).toOption
  let site := (← get).site
  modify fun s => { s with site := site + 1 }
  return .tagged tag site cooked (texts.map Units.ofChars) exprs

/-- The arguments of a call, and the place that messages tell of it. -/
def readArguments (g : Rules) : Reader (List Item × Position) := do
  next
  let at' ← position
  let items ← readList do
    if ← atMark ")" then return none
    let spread ← atMark "..."
    if spread then next
    let e ← g.assignment true
    if ! (← atMark ")") then expectMark ","
    return some (if spread then Item.spread e else .one e)
  expectMark ")"
  return (items, at')

/-- What may follow an expression that names a function. -/
inductive CallForm where
  | plain
  | construct
  | superCall
  deriving DecidableEq

/-- What accesses and calls start from, and what a call of it means. -/
def readStart (g : Rules) (callsAllowed : Bool) (operand : Reader Expr) :
    Reader (Expr × CallForm) := do
  let done (e : Expr) : Reader (Expr × CallForm) := return (e, .plain)
  match ← token with
  | .number x =>
    next
    done (.number x)
  | .big n =>
    next
    done (.big n)
  | .text u =>
    next
    done (.text u)
  | .template .. => done (← readPlainTemplate g)
  | .mark "(" =>
    next
    let e ← readSequence g true
    expectMark ")"
    done e
  | .mark "[" =>
    if (← glance).after.isMark "=" then pattern else done (← readArray g)
  | .mark "\x7b" =>
    if (← glance).after.isMark "=" then pattern else done (← readObject g)
  | .keyword k =>
    let start ← origin
    match k with
    | "function" => done (.function (← g.function .plain false false "" start))
    | "class" => done (.classOf (← g.classOf true))
    | "null" => simple .null
    | "true" => simple (.bool true)
    | "false" => simple (.bool false)
    | "this" => simple .this
    | "new" =>
      next
      if ← atMark "." then
        next
        if ! (← atWord "target") then fail "expecting target"
        if ! (← here).newTargetAllowed then fail "new.target only allowed within functions"
        next
        done .newTarget
      else
        let at' ← position
        let callee ← operand
        if ← atMark "(" then return (callee, .construct)
        done (.construct callee [] at')
    | "super" =>
      next
      if ← atMark "(" then
        if ! (← here).superCallAllowed then
          fail "super() is only valid in a derived class constructor"
        return (.null, .superCall)
      else if ← atMark "." then
        if ! (← here).superAllowed then fail "'super' is only valid in a method"
        next
        match ← token with
        | .name s _ | .keyword s =>
          next
          done (.superMember (.ofString s))
        | .hidden _ => fail "private class field forbidden after super"
        | _ => fail "expecting field name"
      else if ← atMark "[" then
        if ! (← here).superAllowed then fail "'super' is only valid in a method"
        next
        let e ← readSequence g true
        expectMark "]"
        done (.superElement e)
      else fail "invalid use of 'super'"
    | "import" =>
      next
      if ← atMark "." then
        next
        if ! (← atWord "meta") then fail "meta expected"
        fail "import.meta only valid in module code"
      else
        expectMark "("
        if ! callsAllowed then fail "invalid use of 'import()'"
        let e ← g.assignment true
        if ← atMark "," then
          next
          if ! (← atMark ")") then
            let _ ← g.assignment true
            if ← atMark "," then next
        expectMark ")"
        done (.importCall e)
    | _ => noExpression
  | .name s reserved =>
    if reserved then reservedName
    let start ← origin
    if ← pure (s == "async") <&&> (! ·.afterLine) <$> peek then
      next
      if ← atKeyword "function" then done (.function (← g.function .plain true false "" start))
      else done (.name s)
    else
      if s == "arguments" && ! (← here).argumentsAllowed then
        fail "'arguments' identifier is not allowed in class field initializer"
      next
      done (.name s)
  | .mark "/" | .mark "/=" =>
    let s ← get
    let (body, flags, stop) ← ofExcept (Lexer.patternAt s.source s.lexeme.start)
    match Regexp.Expression.ofUnits body flags with
    | .ok _ => pure ()
    | .error e => fail e
    set { s with lexeme := { s.lexeme with stop } }
    next
    done (.regexp body flags)
  | _ => noExpression
where
  simple (e : Expr) : Reader (Expr × CallForm) := do
    next
    return (e, .plain)
  noExpression : Reader (Expr × CallForm) := do
    fail ("unexpected token in expression: '" ++ (← wordText) ++ "'")
  pattern : Reader (Expr × CallForm) := do
    let target ← g.pattern none
    expectMark "="
    let value ← g.assignment true
    return (.assign target value, .plain)

/-- The name after a point. -/
def readField (o : Expr) : Reader Expr := do
  match ← token with
  | .hidden s =>
    next
    useHidden s
    return .hiddenMember o s
  | .name s _ | .keyword s =>
    next
    return .member o (.ofString s)
  | _ => fail "expecting field name"

/-- Accesses and calls after an expression. -/
def readAccesses (g : Rules) (callsAllowed : Bool) :
    Nat → Expr → CallForm → Bool → Reader Expr
  | 0, _, _, _ => fail "stack overflow"
  | fuel + 1, e, form, chained => do
    let parens := callsAllowed || form != .plain
    let finish : Reader Expr := return if chained then .chain e else e
    let element (o : Expr) (chained : Bool) : Reader Expr := do
      next
      let k ← readSequence g true
      expectMark "]"
      readAccesses g callsAllowed fuel (.element o k) form chained
    match ← token with
    | .mark "?." =>
      next
      let o := Expr.optional e
      if (← atMark "(") && parens then
        let (args, at') ← readArguments g
        readAccesses g callsAllowed fuel (.call o args at') .plain true
      else if ← atMark "[" then element o true
      else readAccesses g callsAllowed fuel (← readField o) form true
    | .template .. =>
      if form != .plain then finish
      else if chained then fail "template literal cannot appear in an optional chain"
      else readAccesses g callsAllowed fuel (← readTaggedTemplate g e) form chained
    | .mark "(" =>
      if ! parens then finish
      else
        let (args, at') ← readArguments g
        let e :=
          match form with
          | .plain => Expr.call e args at'
          | .construct => .construct e args at'
          | .superCall => .superCall args at'
        readAccesses g callsAllowed fuel e .plain chained
    | .mark "." =>
      next
      readAccesses g callsAllowed fuel (← readField e) form chained
    | .mark "[" => element e chained
    | _ => finish

/-- The operand of `new`: accesses, but no calls. -/
def readConstructed (g : Rules) : Nat → Reader Expr
  | 0 => fail "stack overflow"
  | n + 1 => do
    let (e, form) ← readStart g false (readConstructed g n)
    readAccesses g false (← fuel) e form false

def readPostfix (g : Rules) : Reader Expr := do
  let n ← fuel
  let (e, form) ← readStart g true (readConstructed g n)
  readAccesses g true n e form false

/-- `delete` and what it is applied to. -/
def readDelete (g : Rules) : Reader Expr := do
  next
  match ← g.unary (some false) with
  | .name s =>
    if (← here).isStrict then fail "cannot delete a direct reference in strict mode"
    return .delete (.name s)
  | .hiddenMember .. => fail "cannot delete a private class field"
  | e => return .delete e

def unaryOf : Token → Option UnaryOp
  | .mark "+" => some .plus
  | .mark "-" => some .minus
  | .mark "!" => some .not
  | .mark "~" => some .bitNot
  | .keyword "void" => some .discard
  | _ => none

/-- An expression with at most one operand. The flag tells whether a power may follow it: it may
not after an operator, and `none` leaves the power to others. -/
def readUnary (g : Rules) (powerAllowed : Option Bool) : Reader Expr := do
  let bare (e : Expr) : Reader (Expr × Option Bool) := return (e, none)
  let (e, power) ← show Reader (Expr × Option Bool) from do
    let t ← token
    match unaryOf t with
    | some op =>
      next
      bare (.unary op (← g.unary (some false)))
    | none =>
      if t.isMark "++" || t.isMark "--" then
        next
        let e ← g.unary none
        let _ ← targetOf e "invalid increment/decrement operand"
        return (.update (t.isMark "++") true e, powerAllowed)
      else if t.isKeyword "typeof" then
        next
        match ← g.unary (some false) with
        | .name s => bare (.typeOfName s)
        | e => bare (.unary .typeOf e)
      else if t.isKeyword "delete" then bare (← readDelete g)
      else if t.isKeyword "await" then
        let h ← here
        if ! h.isAsync then fail "unexpected 'await' keyword"
        if ! h.inBody then fail "await in default expression"
        next
        bare (.await (← g.unary (some false)))
      else
        let e ← readPostfix g
        let l ← lexeme
        if ! l.afterLine && (l.token.isMark "++" || l.token.isMark "--") then
          let _ ← targetOf e "invalid increment/decrement operand"
          next
          return (.update (l.token.isMark "++") false e, powerAllowed)
        return (e, powerAllowed)
  match power with
  | none => return e
  | some allowed =>
    if ← atMark "**" then
      if ! allowed then
        fail "unparenthesized unary expression can't appear on the left-hand side of '**'"
      next
      return .binary .pow e (← g.unary (some true))
    return e

/-- The operators of each rank, those that bind tightest first. -/
def operators : List (List (String × BinaryOp)) :=
  [[("*", .mul), ("/", .div), ("%", .rem)],
   [("+", .add), ("-", .sub)],
   [("<<", .shiftLeft), (">>", .shiftRight), (">>>", .shiftRightUnsigned)],
   [("<", .less), (">", .greater), ("<=", .lessEq), (">=", .greaterEq),
    ("instanceof", .instanceOf), ("in", .isIn)],
   [("==", .equal), ("!=", .notEqual), ("===", .same), ("!==", .notSame)],
   [("&", .bitAnd)],
   [("^", .bitXor)],
   [("|", .bitOr)]]

def operatorAt (rank : Nat) (inAllowed : Bool) (t : Token) : Option BinaryOp :=
  let find (s : String) : Option BinaryOp :=
    ((operators.getD (rank - 1) []).find? (·.1 == s)).map (·.2)
  match t with
  | .mark m => find m
  | .keyword "instanceof" => find "instanceof"
  | .keyword "in" => if inAllowed then find "in" else none
  | _ => none

/-- Operators up to a rank; rank zero is for expressions with one operand. -/
def readBinary (g : Rules) (inAllowed : Bool) : Nat → Reader Expr
  | 0 => readUnary g (some true)
  | rank + 1 => do
    let hidden? ← show Reader (Option String) from do
      match ← token with
      | .hidden s =>
        if rank + 1 = 4 && inAllowed then
          if (← peek).token.isKeyword "in" then return some s
        return none
      | _ => return none
    let first ←
      match hidden? with
      | some s =>
        next
        next
        useHidden s
        pure (Expr.hiddenIn s (← readBinary g inAllowed rank))
      | none => readBinary g inAllowed rank
    let rest ← readList do
      match operatorAt (rank + 1) inAllowed (← token) with
      | some op =>
        next
        return some (op, ← readBinary g inAllowed rank)
      | none => return none
    return rest.foldl (fun a (op, b) => .binary op a b) first

def readAnd (g : Rules) (inAllowed : Bool) : Reader Expr := do
  let first ← readBinary g inAllowed 8
  if ! (← atMark "&&") then return first
  let rest ← readList do
    if ← atMark "&&" then
      next
      return some (← readBinary g inAllowed 8)
    return none
  if ← atMark "??" then fail "cannot mix ?? with && or ||"
  return rest.foldl (.logical .and) first

def readOr (g : Rules) (inAllowed : Bool) : Reader Expr := do
  let first ← readAnd g inAllowed
  if ! (← atMark "||") then return first
  let rest ← readList do
    if ← atMark "||" then
      next
      return some (← readAnd g inAllowed)
    return none
  if ← atMark "??" then fail "cannot mix ?? with && or ||"
  return rest.foldl (.logical .or) first

def readCoalesce (g : Rules) (inAllowed : Bool) : Reader Expr := do
  let first ← readOr g inAllowed
  let rest ← readList do
    if ← atMark "??" then
      next
      return some (← readBinary g inAllowed 8)
    return none
  return rest.foldl (.logical .coalesce) first

def readConditional (g : Rules) (inAllowed : Bool) : Reader Expr := do
  let c ← readCoalesce g inAllowed
  if ← atMark "?" then
    next
    let t ← g.assignment true
    expectMark ":"
    return .conditional c t (← g.assignment inAllowed)
  return c

def readYield (g : Rules) (inAllowed : Bool) : Reader Expr := do
  let h ← here
  if ! h.isGenerator then fail "unexpected 'yield' keyword"
  if ! h.inBody then fail "yield in default expression"
  next
  let l ← lexeme
  if l.afterLine then return .yield none
  if l.token.isMark "*" then
    next
    return .yieldAll (← g.assignment inAllowed)
  match l.token with
  | .eof => return .yield none
  | t =>
    if [";", ")", "]", "\x7d", ",", ":"].any t.isMark then return .yield none
    return .yield (some (← g.assignment inAllowed))

def assignOperator : Token → Option BinaryOp
  | .mark "+=" => some .add
  | .mark "-=" => some .sub
  | .mark "*=" => some .mul
  | .mark "/=" => some .div
  | .mark "%=" => some .rem
  | .mark "**=" => some .pow
  | .mark "<<=" => some .shiftLeft
  | .mark ">>=" => some .shiftRight
  | .mark ">>>=" => some .shiftRightUnsigned
  | .mark "&=" => some .bitAnd
  | .mark "|=" => some .bitOr
  | .mark "^=" => some .bitXor
  | _ => none

def assignLogical : Token → Option LogicalOp
  | .mark "&&=" => some .and
  | .mark "||=" => some .or
  | .mark "??=" => some .coalesce
  | _ => none

/-- The value of an assignment, which takes its name from the variable it goes to. -/
def namedFor (target : Expr) (value : Expr) : Expr :=
  match target with
  | .name s => value.named s
  | _ => value

/-- Whether the word at hand begins a function written with an arrow. -/
def atArrow : Reader Bool := do
  match ← token with
  | .mark "(" =>
    let g ← glance
    return g.after.isMark "=>" && ! g.afterLine
  | .name _ false =>
    let l ← peek
    return l.token.isMark "=>" && ! l.afterLine
  | _ => return false

def readAssignment (g : Rules) (inAllowed : Bool) : Reader Expr := do
  if ← atKeyword "yield" then readYield g inAllowed
  else if ← atArrow then
    return .function (← g.function .arrow false false "" (← origin))
  else
    let saved ← get
    let start ← origin
    let asyncArrow ← show Reader Bool from do
      if ! (← atWord "async") then return false
      let l ← peek
      if l.afterLine || l.token.isKeyword "function" then return false
      next
      atArrow
    if asyncArrow then return .function (← g.function .arrow true false "" start)
    set saved
    let e ← readConditional g inAllowed
    let t ← token
    if t.isMark "=" then
      next
      let target ← targetOf e badAssignment
      return .assign target (namedFor e (← g.assignment inAllowed))
    else
      match assignOperator t, assignLogical t with
      | some op, _ =>
        next
        let _ ← targetOf e badAssignment
        return .assignOp op e (← g.assignment inAllowed)
      | none, some op =>
        next
        let _ ← targetOf e badAssignment
        return .assignLogical op e (namedFor e (← g.assignment inAllowed))
      | none, none => return e

/-- A name in a pattern, declared as the pattern's names are. -/
def readPatternName (binding : Binding) : Reader Pattern := do
  match ← token with
  | .name s false =>
    if isProtected s && (← here).isStrict then fail "invalid destructuring target"
    next
    declare s binding
    return .name s
  | _ => fail "invalid destructuring target"

/-- A part of a pattern that is no pattern of its own. -/
def readPatternTarget (g : Rules) (binding : Option Binding) : Reader Pattern := do
  match binding with
  | some b => readPatternName b
  | none => targetOf (← readPostfix g) "invalid destructuring target"

/-- A part of a pattern: a pattern of its own if what follows it ends it, or else a target. -/
def readPatternPart (g : Rules) (binding : Option Binding) (close : String) : Reader Pattern := do
  if (← atMark "[") || (← atMark "\x7b") then
    let t := (← glance).after
    if t.isMark "," || t.isMark "=" || t.isMark close then g.pattern binding
    else readPatternTarget g binding
  else readPatternTarget g binding

def readFallback (g : Rules) (p : Pattern) : Reader (Option Expr) := do
  if ← atMark "=" then
    next
    return some (p.nameFor (← g.assignment true))
  return none

def readPatternProperty (g : Rules) (binding : Option Binding) : Reader PatternProperty := do
  let (name, shorthand) ← readPropertyName g false
  if ← atMark ":" then
    next
    let p ← readPatternPart g binding "\x7d"
    return .mk name p (← readFallback g p)
  match shorthand with
  | none => unexpected
  | some s =>
    if isProtected s && (← here).isStrict then fail "invalid destructuring target"
    match binding with
    | some b => declare s b
    | none => pure ()
    return .mk name (.name s) (← readFallback g (.name s))

/-- The last part of a pattern, which takes what is left. -/
def readPatternRest (g : Rules) (binding : Option Binding) : Reader Pattern := do
  next
  if (← atMark "[") || (← atMark "\x7b") then g.pattern binding else readPatternTarget g binding

def readPattern (g : Rules) (binding : Option Binding) : Reader Pattern := do
  if ← atMark "\x7b" then
    next
    let rec properties : Nat → Array PatternProperty → Reader Pattern
      | 0, _ => fail "stack overflow"
      | n + 1, acc => do
        if ← atMark "\x7d" then
          next
          return .object acc.toList none
        if ← atMark "..." then
          next
          let rest ← readPatternTarget g binding
          if ! (← atMark "\x7d") then fail "assignment rest property must be last"
          next
          return .object acc.toList (some rest)
        let acc := acc.push (← readPatternProperty g binding)
        if ! (← atMark "\x7d") then expectMark ","
        properties n acc
    properties (← fuel) #[]
  else if ← atMark "[" then
    next
    let rec items : Nat → Array PatternItem → Reader Pattern
      | 0, _ => fail "stack overflow"
      | n + 1, acc => do
        if ← atMark "]" then
          next
          return .array acc.toList none
        if ← atMark "," then
          next
          items n (acc.push .hole)
        else if ← atMark "..." then
          let rest ← readPatternRest g binding
          if ! (← atMark "]") then fail "rest element must be the last one"
          next
          return .array acc.toList (some rest)
        else
          let p ← readPatternPart g binding "]"
          let acc := acc.push (.item p (← readFallback g p))
          if ! (← atMark "]") then expectMark ","
          items n acc
    items (← fuel) #[]
  else fail "invalid assignment syntax"

end CollectionRunner.Script.Grammar
