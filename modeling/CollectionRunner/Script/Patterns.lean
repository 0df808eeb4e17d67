import CollectionRunner.Script.Evaluate

namespace CollectionRunner.Script.Exec

/-- Gives a value to a name: a variable of the scope that is declared here, or any name. -/
def bindName (scope : Nat) (aim : Aim) (s : String) (v : Value) : Exec Unit :=
  match aim with
  | .declare => modify (·.giveFirst scope s v)
  | .assign => writeName scope s v

/-- The value given, or the fallback in place of none. -/
def orFallback (scope : Nat) (v : Value) (p : Pattern) (fallback : Option Expr) : Exec Value := do
  match v, fallback with
  | .undefined, some e => eval scope (p.nameFor e)
  | _, _ => return v

/-- Takes apart the values that an iterator gives. The flag tells that it has no more. -/
def bindItems (scope : Nat) (aim : Aim) (i : Iteration) (rest : Option Pattern) :
    List PatternItem → Bool → Exec Unit
  | [], done => do
    match rest with
    | some p =>
      let values ←
        if done then pure []
        else iterate [] fun before => do
          match ← nextValue i with
          | none => return .ok before.reverse
          | some v => return .error (v :: before)
      bindPattern scope aim p (← newArray values)
    | none => if ! done then closeIteration i
  | item :: items, done => do
    let next ← if done then pure none else nextValue i
    let done := next.isNone
    match item with
    | .hole => pure ()
    | .item p fallback =>
      let bind : Exec Unit := do
        let v ← orFallback scope (next.getD .undefined) p fallback
        bindPattern scope aim p v
      if done then bind else recover bind (closeAfter i)
    bindItems scope aim i rest items done

def bindProperties (scope : Nat) (aim : Aim) (v : Value) (rest : Option Pattern) :
    List PatternProperty → List Key → Exec Unit
  | [], taken => do
    match rest with
    | some p =>
      let r ← emptyObject
      copyProperties v taken r
      bindPattern scope aim p (.object r)
    | none => return ()
  | .mk name p fallback :: properties, taken => do
    let k ← propertyKey scope name
    let given ← getOf v k
    let given ← orFallback scope given p fallback
    bindPattern scope aim p given
    bindProperties scope aim v rest properties (k :: taken)

/-- Gives a value to a pattern. -/
def patternBinding (scope : Nat) (aim : Aim) (p : Pattern) (v : Value) : Exec Unit := do
  match p with
  | .name s => bindName scope aim s v
  | .target e => writeReference scope (← reference scope e) v
  | .array items rest =>
    let i ← iterate? v
    bindItems scope aim i rest items false
  | .object properties rest =>
    if v.isNullish then typeError "Cannot convert undefined or null to object"
    bindProperties scope aim v rest properties []

end CollectionRunner.Script.Exec
