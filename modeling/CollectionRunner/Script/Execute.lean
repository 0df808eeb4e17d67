import CollectionRunner.Script.Patterns

namespace CollectionRunner.Script.Exec

/-- Runs something in a scope for the names of a block, or in the scope around if there are none. -/
def inBlock (scope : Nat) (declared : List Declared) (body : Nat → Exec Unit) : Exec Unit :=
  if declared.isEmpty then body scope else inScope scope (blockVariables declared) none body

def execBlock (scope : Nat) : Block → Exec Unit
  | .mk declared functions body =>
    inBlock scope declared fun scope => do
      hoistFunctions scope functions
      forEach (exec scope) body

def declareVariables (scope : Nat) (aim : Aim) (list : List (Pattern × Option Expr)) : Exec Unit :=
  forEach
    (fun (p, e) => do
      match e with
      | some e =>
        let v ← eval scope e
        bindPattern scope aim p v
      | none =>
        match aim, p with
        | .declare, .name s => modify (·.giveFirst scope s .undefined)
        | _, _ => return ())
    list

/-- The body of a loop; it tells whether the loop goes on. -/
def loopBody (scope : Nat) (labels : List String) (body : Statement) : Exec Bool :=
  recover
    (do
      exec scope body
      return true)
    fun
      | .continued none => return true
      | .continued (some l) => if labels.contains l then return true else fail (.continued (some l))
      | .broke none => return false
      | f => fail f

def execWhile (scope : Nat) (labels : List String) (c : Expr) (body : Statement) : Exec Unit :=
  iterate () fun () => do
    poll
    if ! (← eval scope c).truth then return .ok ()
    if ← loopBody scope labels body then return .error () else return .ok ()

def execDoWhile (scope : Nat) (labels : List String) (body : Statement) (c : Expr) : Exec Unit :=
  iterate () fun () => do
    poll
    if ! (← loopBody scope labels body) then return .ok ()
    if (← eval scope c).truth then return .error () else return .ok ()

/-- The scope for the next round: a new one with the same values if functions have been made in the
old one. -/
def nextRound (scope : Nat) : Exec Nat :=
  modifyGet fun s =>
    let x := s.scopes.getD scope {}
    if x.kept then
      (s.scopes.size, { s with scopes := s.scopes.push { x with kept := false } })
    else (scope, s)

def execFor (scope : Nat) (labels : List String) (declared : List Declared) (init : Option Statement)
    (test update : Option Expr) (body : Statement) : Exec Unit := do
  let own := ! declared.isEmpty
  let holds (scope : Nat) : Exec Bool :=
    match test with
    | some e => do return (← eval scope e).truth
    | none => return true
  let first ← if own then newScope scope (blockVariables declared) none else pure scope
  match init with
  | some s => exec first s
  | none => pure ()
  let last ← iterate first fun scope => do
    poll
    if ! (← holds scope) then return .ok scope
    if ! (← loopBody scope labels body) then return .ok scope
    let scope ← if own then nextRound scope else pure scope
    match update with
    | some e =>
      let _ ← eval scope e
    | none => pure ()
    return .error scope
  if own then modify (·.dropScope last)

/-- One round of a loop over values. -/
def execRound (scope : Nat) (labels : List String) (declared : List Declared) (isLexical : Bool)
    (target : Pattern) (body : Statement) (v : Value) : Exec Bool := do
  let aim : Aim := if isLexical then .declare else .assign
  if declared.isEmpty then
    bindPattern scope aim target v
    loopBody scope labels body
  else
    inScope scope (blockVariables declared) none fun scope => do
      bindPattern scope aim target v
      loopBody scope labels body

/-- Whether a prototype of an object has enumerable properties. -/
def inheritsNames : Nat → Ref → Exec Bool
  | 0, _ => return false
  | n + 1, r => do
    match ← prototypeOf r with
    | none => return false
    | some p => if (← enumerableKeys p).isEmpty then inheritsNames n p else return true

/-- The names that a loop over an object goes through: its own and those of its prototypes, and of
those that are hidden by others only the first. -/
def namesFrom : Nat → Option Ref → List Key → List Key → Exec (List Key)
  | 0, _, _, found => return found.reverse
  | _, none, _, found => return found.reverse
  | n + 1, some r, seen, found => do
    let keys := (← keysOf r).filter (! ·.isSymbol)
    let mine ← mapEach
      (fun k => do
        if seen.contains k then return []
        match ← getOwn r k with
        | some p => return if p.enumerable then [k] else []
        | none => return [])
      keys []
    let p ← prototypeOf r
    if p.isNone then return found.reverse ++ mine.flatten
    namesFrom n p (keys ++ seen) (mine.flatten.reverse ++ found)

/-- The names that a loop over an object goes through. -/
def namesOf (r : Ref) : Exec (List Key) := do
  if ← inheritsNames proxyDepth r then namesFrom proxyDepth (some r) [] [] else enumerableKeys r

/-- The scope in which the subject of a loop is evaluated: the loop's names have no values there. -/
def subjectOf (scope : Nat) (declared : List Declared) (e : Expr) : Exec Value :=
  if declared.isEmpty then eval scope e
  else inScope scope (blockVariables declared) none fun scope => eval scope e

def execForIn (scope : Nat) (labels : List String) (declared : List Declared) (isLexical : Bool)
    (target : Pattern) (subject : Expr) (body : Statement) : Exec Unit := do
  let v ← subjectOf scope declared subject
  if v.isNullish then return ()
  let r ← toObject v
  let names ← namesOf r
  let watched := ! (← isProxy r)
  iterate names fun
    | [] => return .ok ()
    | k :: rest => do
      poll
      if ← pure watched <&&> not <$> has r k then return .error rest
      let v := Value.text ((k.units?).getD #[])
      if ← execRound scope labels declared isLexical target body v then return .error rest
      else return .ok ()

def execForOf (scope : Nat) (labels : List String) (declared : List Declared)
    (isLexical isAwait : Bool) (target : Pattern) (subject : Expr) (body : Statement) :
    Exec Unit := do
  let v ← subjectOf scope declared subject
  let i ←
    if isAwait then
      match ← method? v KnownSymbol.asyncIterator.key with
      | some _ => iterationOf v KnownSymbol.asyncIterator.key
      | none => iterate? v
    else iterate? v
  iterate () fun () => do
    poll
    if isAwait then
      let _ ← call i.next i.iterator []
      let _ ← evalAwait .undefined
    match ← nextValue i with
    | none => return .ok ()
    | some v =>
      let goesOn ← recover (execRound scope labels declared isLexical target body v) (closeAfter i)
      if goesOn then return .error ()
      closeIteration i
      return .ok ()

/-- The statements from the first case on whose value is the given one. -/
def matchingCase (scope : Nat) (v : Value) :
    List (Option Expr × List Statement) → Exec (Option (List Statement))
  | [] => return none
  | (none, _) :: rest => matchingCase scope v rest
  | (some e, body) :: rest => do
    let w ← eval scope e
    if v.strictlyEqual w then return some (body ++ rest.flatMap (·.2))
    matchingCase scope v rest

/-- The statements from the default case on. -/
def defaultCase : List (Option Expr × List Statement) → List Statement
  | [] => []
  | (none, body) :: rest => body ++ rest.flatMap (·.2)
  | _ :: rest => defaultCase rest

def execSwitch (scope : Nat) (e : Expr) (declared : List Declared) (functions : List Function)
    (cases : List (Option Expr × List Statement)) : Exec Unit := do
  let v ← eval scope e
  inBlock scope declared fun scope => do
    hoistFunctions scope functions
    let body := (← matchingCase scope v cases).getD (defaultCase cases)
    recover (forEach (exec scope) body) fun
      | .broke none => return ()
      | f => fail f

def execTry (scope : Nat) (body : Block) (handler : Option (Option Pattern × List Declared × Block))
    (finalizer : Option Block) : Exec Unit := do
  let guarded : Exec Unit :=
    match handler with
    | none => execBlock scope body
    | some (p, declared, block) =>
      catchThrown (execBlock scope body) fun v =>
        inBlock scope declared fun scope => do
          match p with
          | some p => bindPattern scope .declare p v
          | none => pure ()
          execBlock scope block
  match finalizer with
  | none => guarded
  | some block => ensuring guarded (execBlock scope block)

/-- A loop with its labels. -/
def execLoop (scope : Nat) (labels : List String) (s : Statement) : Exec Unit :=
  match s with
  | .while c body => execWhile scope labels c body
  | .doWhile body c => execDoWhile scope labels body c
  | .for declared init test update body => execFor scope labels declared init test update body
  | .forIn declared isLexical target subject body =>
    execForIn scope labels declared isLexical target subject body
  | .forOf declared isLexical isAwait target subject body =>
    execForOf scope labels declared isLexical isAwait target subject body
  | _ => exec scope s

/-- What a statement does, given how classes are made. -/
def statement (classOf : Nat → Class → Exec Value) (scope : Nat) (s : Statement) : Exec Unit := do
  match s with
  | .empty => return ()
  | .expr e at' =>
    reach at'
    let _ ← eval scope e
  | .result e at' =>
    reach at'
    let v ← eval scope e
    modify fun s => { s with result := v }
  | .clearing s =>
    modify fun s => { s with result := .undefined }
    exec scope s
  | .sparing b =>
    let before ← read (·.result)
    modify fun s => { s with result := .undefined }
    execBlock scope b
    modify fun s => { s with result := before }
  | .vars list => declareVariables scope .assign list
  | .lexical list => declareVariables scope .declare list
  | .block b => execBlock scope b
  | .classDeclaration c =>
    let v ← classOf scope c
    match c with
    | .mk (some name) .. => modify (·.giveFirst scope name v)
    | _ => return ()
  | .ifElse c t e =>
    if (← eval scope c).truth then exec scope t
    else
      match e with
      | some e => exec scope e
      | none => return ()
  | .while .. | .doWhile .. | .for .. | .forIn .. | .forOf .. => execLoop scope [] s
  | .return none => fail (.returned .undefined)
  | .return (some e) =>
    let v ← eval scope e
    fail (.returned v)
  | .throw e at' =>
    reach at'
    let v ← eval scope e
    throwValue v
  | .break l => fail (.broke l)
  | .continue l => fail (.continued l)
  | .switch e declared functions cases => execSwitch scope e declared functions cases
  | .try body handler finalizer => execTry scope body handler finalizer
  | .labelled label s =>
    recover (execLoop scope [label] s) fun
      | .broke (some l) => if l == label then return () else fail (.broke (some l))
      | f => fail f
  | .within e body =>
    let subject ← toObject (← eval scope e)
    inScope scope #[] none fun scope => do
      modify (·.modifyScope scope fun x => { x with subject := some subject })
      exec scope body
  | .outward f => giveOutward scope f

end CollectionRunner.Script.Exec
