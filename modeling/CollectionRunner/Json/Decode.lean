import CollectionRunner.Json.Reader

namespace CollectionRunner.Json

/-- A way to read a tree as a value of a type. -/
abbrev Decoder (α : Type) := Node → Except Fault α

namespace Decoder

def string : Decoder String
  | .string _ s => s
  | n => .error (n.wrongType "a string")

def bool : Decoder Bool
  | .bool _ b => .ok b
  | n => .error (n.wrongType "a boolean")

/-- A number from 0 to below `2 ^ 64`, of which a message says `expected`. -/
def word (expected : String) : Decoder Nat
  | .number _ (.error f) => .error f
  | .number s (.ok (.integer n)) =>
    if 0 ≤ n then .ok n.toNat else .error (.at s.mark (.wrongValue (.number (.integer n)) expected))
  | n => .error (n.wrongType expected)

/-- A value that may be null. -/
def option {α : Type} (read : Decoder α) : Decoder (Option α)
  | .null _ => .ok none
  | n => some <$> read n

/-- The members of a list, each placed where the list gives up after it. -/
def items {α : Type} (read : Decoder α) : List Node → Except Fault (List α)
  | [] => .ok []
  | n :: rest => do
    let v ← (read n).mapError (Fault.placed n.stop)
    return v :: (← items read rest)

def list {α : Type} (read : Decoder α) : Decoder (List α)
  | .array _ nodes ending => do
    let vs ← items read nodes
    Node.readEnding ending
    return vs
  | n => .error (n.wrongType "a sequence")

/-- A map from keys to values, in which a later value of a key wins. -/
def entries {α : Type} (read : Decoder α) : List (Key × Node) → Except Fault (List (String × α))
  | [] => .ok []
  | (k, n) :: rest => do
    let key ← k.name
    let v ← (read n).mapError (Fault.placed n.stop)
    return (key, v) :: (← entries read rest)

def map {α : Type} (read : Decoder α) : Decoder (List (String × α))
  | .object _ fields ending => do
    let es ← entries read fields
    Node.readEnding ending
    return es.foldl (fun acc e => insertField e.1 e.2 acc) []
  | n => .error (n.wrongType "a map")

/-- A field of a record: its name and how its value goes into the record. -/
abbrev Fields (α : Type) := List (String × (α → Decoder α))

/-- What happens to a field that is not known: it is passed over. -/
def passOver {α : Type} (r : α) (_ : String) : Decoder α := fun n => do
  n.skip
  return r

/-- The fields of an object in the order of the text. A known field stands once. -/
def recordFields {α : Type} (known : Fields α) (unknown : α → String → Decoder α) :
    List (Key × Node) → List String → α → Except Fault (List String × α)
  | [], seen, r => .ok (seen, r)
  | (k, n) :: rest, seen, r => do
    let key ← k.name
    match field? key known with
    | none => do
      let r ← (unknown r key n).mapError (Fault.placed n.stop)
      recordFields known unknown rest seen r
    | some read =>
      if seen.contains key then throw (.at k.stop (.duplicateField key))
      let r ← (read r n).mapError (Fault.placed n.stop)
      recordFields known unknown rest (key :: seen) r

/-- The fields of a record that is written as a list. -/
def recordItems {α : Type} (known : Fields α) (required : List String) (expected : String)
    (place : Position) : Nat → List Node → α → Except Fault α :=
  match known with
  | [] => fun _ nodes r =>
    match nodes with
    | [] => .ok r
    | n :: _ => .error (.at n.start.next .trailingCharacters)
  | (name, read) :: known => fun count nodes r =>
    match nodes with
    | [] =>
      if required.contains name then .error (.at place (.wrongLength count expected))
      else recordItems known required expected place (count + 1) [] r
    | n :: nodes => do
      let r ← (read r n).mapError (Fault.placed n.stop)
      recordItems known required expected place (count + 1) nodes r

/-- A record named `name`: an object with its fields, or a list of their values. Fields that are
missing keep the value that they have in `start`. -/
def record {α : Type} (name : String) (required : List String) (known : Fields α) (start : α) :
    Decoder α
  | .object _ fields ending => do
    let (seen, r) ← recordFields known passOver fields [] start
    Node.readEnding ending
    match required.find? (! seen.contains ·) with
    | some field => throw (.at (Node.endPlace ending) (.missingField field))
    | none => return r
  | .array _ nodes ending => do
    let expected := "struct " ++ name ++ " with " ++ toString known.length ++ " elements"
    if known.length ≤ nodes.length then
      let r ← recordItems known required expected default 0 nodes start
      Node.readEnding ending
      return r
    else
      let _ ← recordItems known [] expected default 0 nodes start
      Node.readEnding ending
      recordItems known required expected (Node.endPlace ending) 0 nodes start
  | n => .error (n.wrongType ("struct " ++ name))

/-- A record that is written as an object only, one of several ways to write a value. -/
def fieldsOnly {α : Type} (known : Fields α) (start : α) : Node → Option α
  | .object _ fields _ =>
    match recordFields known passOver fields [] start with
    | .ok (_, r) => some r
    | .error _ => none
  | _ => none

/-- A record that is written as an object, whose other fields are kept by `other`. -/
def openRecord {α : Type} (name : String) (known : Fields α) (other : α → String → Decoder α)
    (start : α) : Decoder α
  | .object _ fields ending => do
    let (_, r) ← recordFields known other fields [] start
    Node.readEnding ending
    return r
  | n => .error (n.wrongType ("struct " ++ name))

/-- A value that is written in one of several ways: it is read completely first, and then must be
one of the ways. -/
def variants {α : Type} (name : String) (read : Node → Option α) : Decoder α := fun n => do
  let _ ← n.value
  match read n with
  | some v => return v
  | none => throw ⟨.noVariant name, none⟩

/-- The text of a scalar: nothing for null, a string itself, the compact text of any other value. -/
def scalarText : Decoder String := fun n => do
  match ← n.value with
  | .null => return ""
  | .string s => return s
  | v => return v.compact

end Decoder

end CollectionRunner.Json
