import CollectionRunner.Script.Heap

namespace CollectionRunner.Script

namespace Exec

variable {α : Type}

def newObject (o : Obj) : Exec Ref := modifyGet (·.allocate o)

/-- An empty object. -/
def emptyObject : Exec Ref := newObject { prototype := some Intrinsic.objectPrototype.ref }

end Exec

def Call.name (s : Store) (c : Call) : Units :=
  match c.function with
  | none => .ofString "<eval>"
  | some r =>
    match s.own? r (.ofString "name") with
    | some { slot := .data (.text u) _, .. } => if u.isEmpty then .ofString "<anonymous>" else u
    | _ => .ofString "<anonymous>"

/-- A line that tells a call. -/
def Call.line (s : Store) (c : Call) : Units :=
  let at' : String :=
    match c.file with
    | none => "native"
    | some file => file ++ ":" ++ toString c.position.line ++ ":" ++ toString c.position.column
  .ofString "    at " ++ c.name s ++ .ofString (" (" ++ at' ++ ")\n")

/-- How many lines errors have that tell of calls. -/
def Store.traceLines (s : Store) : Nat :=
  match s.traceLimit with
  | .number x => min (toInt32 x).toNat 64
  | _ => 0

/-- The lines that tell of calls, `count` of them at most. -/
def Store.trace (s : Store) (calls : List Call) (count : Nat) : Units :=
  ((calls.take count).map (·.line s)).foldl (· ++ ·) #[]

namespace Exec

variable {α : Type}

/-- An error with what it tells of the calls under way, after a line of its own. -/
def newErrorAt (first : String) (prototype : Ref) (message : Units) : Exec Value := do
  let stack ← read fun s =>
    .ofString first ++ s.trace s.calls (s.traceLines - if first.isEmpty then 0 else 1)
  let r ← newObject
    { prototype := some prototype, kind := .error,
      properties := #[(.ofString "message", .silent (.text message)),
        (.ofString "stack", .silent (.text stack))] }
  return .object r

def newError (prototype : Ref) (message : Units) : Exec Value := newErrorAt "" prototype message

def throwNew (kind : Intrinsic) (message : String) : Exec α := do
  throwValue (← newError kind.ref (.ofString message))

def typeError (message : String) : Exec α := throwNew .typeErrorPrototype message

def rangeError (message : String) : Exec α := throwNew .rangeErrorPrototype message

def referenceError (message : String) : Exec α := throwNew .referenceErrorPrototype message

def syntaxError (message : String) : Exec α := throwNew .syntaxErrorPrototype message

/-- The complaint about a text that is no script, which tells its name and a place in it. -/
def sourceError (file message : String) (p : Position) : Exec α := do
  let line := "    at " ++ file ++ ":" ++ toString p.line ++ ":" ++ toString p.column ++ "\n"
  throwValue
    (← newErrorAt line Intrinsic.syntaxErrorPrototype.ref (.ofString message))

def stackOverflow : Exec α := rangeError "Maximum call stack size exceeded"

def outOfMemory : Exec α := throwNew .internalErrorPrototype "out of memory"

def readObj (r : Ref) : Exec Obj := read (·.obj r)

/-- Looks something up in what an object is. -/
@[inline]
def inspect (r : Ref) (f : Kind → α) : Exec α := read fun s => f (s.obj r).kind

def kindOf (r : Ref) : Exec Kind := inspect r id

def isProxy (r : Ref) : Exec Bool := inspect r Kind.isProxy

def isCallable (v : Value) : Exec Bool := read (·.isCallable v)

def isConstructor (v : Value) : Exec Bool := read (·.isConstructor v)

/-- How deep proxies may stand for one another. -/
def proxyDepth : Nat := 1000

/-- The target and the handler of a proxy. -/
def proxyParts (r : Ref) : Exec (Ref × Ref) := do
  match ← kindOf r with
  | .proxy (some target) (some handler) .. => return (target, handler)
  | _ => typeError "revoked proxy"

/-- Refuses what a proxy's handler gives for a property that its target shows as it is for good. -/
def checkGiven (p : Property) (v : Value) : Exec Unit := do
  let fine : Bool :=
    p.configurable ||
      match p.slot with
      | .data w writable => writable || w.same v
      | .accessor .undefined _ => v.isUndefined
      | .accessor .. => true
  if ! fine then typeError "proxy: inconsistent get"

/-- The value of a property for a receiver. -/
def getWithin : Nat → Ref → Key → Value → Exec Value
  | 0, _, _, _ => stackOverflow
  | n + 1, r, k, receiver => do
    match ← read (·.search r k) with
    | .missing => return .undefined
    | .found p _ =>
      match p.slot with
      | .data v _ => return v
      | .accessor f _ => if f.isUndefined then return .undefined else call f receiver []
    | .proxy p =>
      let (target, handler) ← proxyParts p
      let trap ← getWithin n handler (.ofString "get") (.object handler)
      if trap.isNullish then getWithin n target k receiver
      else
        let v ← call trap (.object handler) [.object target, .ofKey k, receiver]
        match ← read fun s => s.own? target k with
        | some p => checkGiven p v
        | none => pure ()
        return v

def getFrom (r : Ref) (k : Key) (receiver : Value) : Exec Value := getWithin proxyDepth r k receiver

/-- The value of an object's property. -/
def get (r : Ref) (k : Key) : Exec Value := getFrom r k (.object r)

def getNamed (r : Ref) (name : String) : Exec Value := get r (.ofString name)

end Exec

open Exec

/-- The object that a primitive value takes its properties from. -/
def Value.family : Value → Option Intrinsic
  | .bool _ => some .booleanPrototype
  | .number _ => some .numberPrototype
  | .big _ => some .bigintPrototype
  | .text _ => some .stringPrototype
  | .symbol _ => some .symbolPrototype
  | _ => none

namespace Exec

/-- A property's name as it stands in messages: a symbol is shown by its description. -/
def keyName (k : Key) : Exec String := do
  match k with
  | .symbol id => return (← read fun s => (s.symbols.getD id none).getD #[]).lossyString
  | _ => return k.shown

/-- The value of a property of any value. -/
def getOf (v : Value) (k : Key) : Exec Value :=
  match v with
  | .object r => getFrom r k v
  | .text u =>
    match k with
    | .index i =>
      if i < u.size then return .text #[u.getD i 0]
      else getFrom Intrinsic.stringPrototype.ref k v
    | _ =>
      if k == lengthKey then return .ofNat u.size else getFrom Intrinsic.stringPrototype.ref k v
  | .undefined => do typeError ("cannot read property '" ++ (← keyName k) ++ "' of undefined")
  | .null => do typeError ("cannot read property '" ++ (← keyName k) ++ "' of null")
  | _ => getFrom (v.family.getD .objectPrototype).ref k v

def getNamedOf (v : Value) (name : String) : Exec Value := getOf v (.ofString name)

/-- A method, if there is one. -/
def method? (v : Value) (k : Key) : Exec (Option Value) := do
  let f ← getOf v k
  if f.isNullish then return none
  if ← isCallable f then return some f
  typeError "not a function"

/-- Calls a method. -/
def invoke (v : Value) (name : String) (args : List Value) : Exec Value := do
  let f ← getNamedOf v name
  call f v args

end Exec

end CollectionRunner.Script
