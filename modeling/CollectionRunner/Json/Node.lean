import CollectionRunner.Json.Fault

namespace CollectionRunner.Json

/-- Places of a value: its first byte, the place that a wrong type is reported at, and the place
that the container around it has reached when it gives up right after the value. -/
structure Span where
  start : Position
  mark : Position
  stop : Position
  deriving DecidableEq, Repr, Inhabited

/-- A key of an object and the place right after it. -/
structure Key where
  name : Except Fault String
  stop : Position

/-- How the members of a container end. -/
inductive Ending where
  /-- With its bracket; the place is the one behind the bracket. -/
  | closed (place : Position)
  /-- With a fault, `read` when the members are wanted and `skip` when they are passed over. -/
  | broken (read : Fault) (skip : Option Fault)

/-- The syntax tree of a text. It ends at the first place where the text cannot be read on; what is
wrong there depends on whether the value is wanted or passed over. -/
inductive Node where
  | null (span : Span)
  | bool (span : Span) (b : Bool)
  | number (span : Span) (n : Except Fault Number)
  | string (span : Span) (s : Except Fault String)
  | array (span : Span) (items : List Node) (ending : Ending)
  | object (span : Span) (fields : List (Key × Node)) (ending : Ending)
  | broken (read skip : Fault)

namespace Node

/-- Where the container around the value has got to behind it. -/
def stop : Node → Position
  | .null s | .bool s _ | .number s _ | .string s _ | .array s _ _ | .object s _ _ => s.stop
  | .broken f _ => f.place.getD default

/-- The first byte of the value. -/
def start : Node → Position
  | .null s | .bool s _ | .number s _ | .string s _ | .array s _ _ | .object s _ _ => s.start
  | .broken f _ => f.place.getD default

/-- The fault met when the value is of a kind that is not the one expected. -/
def wrongType (expected : String) : Node → Fault
  | .null s => .at s.mark (.wrongType .null expected)
  | .bool s b => .at s.mark (.wrongType (.bool b) expected)
  | .number s (.ok n) => .at s.mark (.wrongType (.number n) expected)
  | .number _ (.error f) => f
  | .string s (.ok t) => .at s.mark (.wrongType (.string t) expected)
  | .string _ (.error f) => f
  | .array s _ _ => .at s.mark (.wrongType .sequence expected)
  | .object s _ _ => .at s.mark (.wrongType .map expected)
  | .broken f _ => f

mutual

/-- Passes over a value, which reads no number and joins no escapes. -/
def skip : Node → Except Fault Unit
  | .array _ items ending => do skipItems items; skipEnding ending
  | .object _ fields ending => do skipFields fields; skipEnding ending
  | .broken _ f => .error f
  | _ => .ok ()

def skipItems : List Node → Except Fault Unit
  | [] => .ok ()
  | n :: rest => do n.skip; skipItems rest

def skipFields : List (Key × Node) → Except Fault Unit
  | [] => .ok ()
  | (_, n) :: rest => do n.skip; skipFields rest

def skipEnding : Ending → Except Fault Unit
  | .closed _ => .ok ()
  | .broken _ (some f) => .error f
  | .broken _ none => .ok ()

end

/-- The end of wanted members. -/
def readEnding : Ending → Except Fault Unit
  | .closed _ => .ok ()
  | .broken f _ => .error f

/-- A text holds the value only if it ends there: the rest of a run of members, checked in turn. -/
def endPlace : Ending → Position
  | .closed p => p
  | .broken f _ => f.place.getD default

mutual

/-- The value of a tree whose every part is wanted. -/
def value : Node → Except Fault Value
  | .null _ => .ok .null
  | .bool _ b => .ok (.bool b)
  | .number _ n => n.map .number
  | .string _ s => s.map .string
  | .array _ items ending => do
    let vs ← valueItems items
    readEnding ending
    return .array vs
  | .object _ fields ending => do
    let fs ← valueFields fields
    readEnding ending
    return .ofFields fs
  | .broken f _ => .error f

def valueItems : List Node → Except Fault (List Value)
  | [] => .ok []
  | n :: rest => do
    let v ← n.value
    return v :: (← valueItems rest)

def valueFields : List (Key × Node) → Except Fault (List (String × Value))
  | [] => .ok []
  | (k, n) :: rest => do
    let name ← k.name
    let v ← n.value
    return (name, v) :: (← valueFields rest)

end

mutual

/-- The tree of a value that was never a text; every place in it is the start. -/
def ofValue : Value → Node
  | .null => .null default
  | .bool b => .bool default b
  | .number n => .number default (.ok n)
  | .string s => .string default (.ok s)
  | .array items => .array default (ofItems items) (.closed default)
  | .object fields => .object default (ofFields fields) (.closed default)

def ofItems : List Value → List Node
  | [] => []
  | v :: rest => ofValue v :: ofItems rest

def ofFields : List (String × Value) → List (Key × Node)
  | [] => []
  | (k, v) :: rest => (⟨.ok k, default⟩, ofValue v) :: ofFields rest

end

mutual

/-- How deep the containers of a tree nest, counting its leaves. -/
def height : Node → Nat
  | .array _ items _ => heightItems items + 1
  | .object _ fields _ => heightFields fields + 1
  | _ => 1

def heightItems : List Node → Nat
  | [] => 0
  | n :: rest => max n.height (heightItems rest)

def heightFields : List (Key × Node) → Nat
  | [] => 0
  | (_, n) :: rest => max n.height (heightFields rest)

end

end Node

end CollectionRunner.Json
